import BackupMonitor.Api.MetadataShape
/-!
# The shape of pods

A pod is read with its whole schema: of a pod that does not fit it the owners are not known either.
Quantities are texts here.
-/

namespace BackupMonitor.Api

open Json (Shape)

/-- An amount of a resource. -/
def quantityShape : Shape := .anyText

/-- Amounts under the names of resources. -/
def quantitiesShape : Shape := .map quantityShape

/-- A reference by name. -/
def nameShape : Shape := .record (texts ["name"])

/-- A name with a value. -/
def pairShape : Shape := .record (texts ["name", "value"])

/-! ## Selectors and affinity -/

/-- A condition on a label or a field. -/
def requirementShape : Shape :=
  .record (texts ["key", "operator"] ++ [("values", .textList)])

/-- A choice of objects by their labels. -/
def labelSelectorShape : Shape :=
  .record [("matchExpressions", .list requirementShape), ("matchLabels", .textMap)]

/-- A choice of nodes. -/
def nodeTermShape : Shape :=
  .record (fieldsOf (.list requirementShape) ["matchExpressions", "matchFields"])

/-- The nodes that a pod has to run on, and those that it should run on. -/
def nodeAffinityShape : Shape :=
  .record [
    ("preferredDuringSchedulingIgnoredDuringExecution",
      .list (.record [("preference", nodeTermShape), ("weight", .int32)])),
    ("requiredDuringSchedulingIgnoredDuringExecution",
      .record [("nodeSelectorTerms", .list nodeTermShape)])]

/-- A choice of pods next to which a pod may or may not run. -/
def podTermShape : Shape :=
  .record (texts ["topologyKey"] ++
    fieldsOf .textList ["matchLabelKeys", "mismatchLabelKeys", "namespaces"] ++
    fieldsOf labelSelectorShape ["labelSelector", "namespaceSelector"])

/-- The pods next to which a pod has to run, or must not, and those next to which it should. -/
def podAffinityShape : Shape :=
  .record [
    ("preferredDuringSchedulingIgnoredDuringExecution",
      .list (.record [("podAffinityTerm", podTermShape), ("weight", .int32)])),
    ("requiredDuringSchedulingIgnoredDuringExecution", .list podTermShape)]

/-- Where a pod may run. -/
def affinityShape : Shape :=
  .record [("nodeAffinity", nodeAffinityShape), ("podAffinity", podAffinityShape),
    ("podAntiAffinity", podAffinityShape)]

/-- How pods are spread over nodes. -/
def spreadShape : Shape :=
  .record (texts ["nodeAffinityPolicy", "nodeTaintsPolicy", "topologyKey", "whenUnsatisfiable"] ++
    fieldsOf .int32 ["maxSkew", "minDomains"] ++
    [("labelSelector", labelSelectorShape), ("matchLabelKeys", .textList)])

/-- A property of a node that a pod puts up with. -/
def tolerationShape : Shape :=
  .record (texts ["effect", "key", "operator", "value"] ++ [("tolerationSeconds", .int64)])

/-! ## Security -/

/-- A profile that confines a process. -/
def profileShape : Shape := .record (texts ["localhostProfile", "type"])

/-- A security label. -/
def seLinuxShape : Shape := .record (texts ["level", "role", "type", "user"])

/-- Security on Windows. -/
def windowsShape : Shape :=
  .record (texts ["gmsaCredentialSpec", "gmsaCredentialSpecName", "runAsUserName"] ++
    flags ["hostProcess"])

/-- What is common to the security of a container and of a pod. -/
def securityFields : Fields :=
  [("appArmorProfile", profileShape), ("runAsGroup", .int64), ("runAsNonRoot", .bool),
    ("runAsUser", .int64), ("seLinuxOptions", seLinuxShape), ("seccompProfile", profileShape),
    ("windowsOptions", windowsShape)]

/-- The security of a container. -/
def containerSecurityShape : Shape :=
  .record (securityFields ++ texts ["procMount"] ++
    flags ["allowPrivilegeEscalation", "privileged", "readOnlyRootFilesystem"] ++
    [("capabilities", .record (fieldsOf .textList ["add", "drop"]))])

/-- The security of a pod. -/
def podSecurityShape : Shape :=
  .record (securityFields ++
    texts ["fsGroupChangePolicy", "seLinuxChangePolicy", "supplementalGroupsPolicy"] ++
    [("fsGroup", .int64), ("supplementalGroups", .list .int64), ("sysctls", .list pairShape)])

/-! ## Containers -/

/-- A key of an object that may be optional. -/
def keyRefShape : Shape := .record (texts ["key", "name"] ++ flags ["optional"])

/-- An object that may be optional. -/
def optionalRefShape : Shape := .record (texts ["name"] ++ flags ["optional"])

/-- A field of the pod itself. -/
def fieldRefShape : Shape := .record (texts ["apiVersion", "fieldPath"])

/-- A resource of a container. -/
def resourceFieldRefShape : Shape :=
  .record (texts ["containerName", "resource"] ++ [("divisor", quantityShape)])

/-- A variable of the environment. -/
def envShape : Shape :=
  .record (texts ["name", "value"] ++
    [("valueFrom", .record [("configMapKeyRef", keyRefShape), ("fieldRef", fieldRefShape),
      ("resourceFieldRef", resourceFieldRefShape), ("secretKeyRef", keyRefShape)])])

/-- Variables of the environment that an object gives. -/
def envFromShape : Shape :=
  .record (texts ["prefix"] ++ fieldsOf optionalRefShape ["configMapRef", "secretRef"])

/-- A command. -/
def execShape : Shape := .record [("command", .textList)]

/-- A request. -/
def httpGetShape : Shape :=
  .record (texts ["host", "path", "scheme"] ++
    [("httpHeaders", .list pairShape), ("port", .int32OrText)])

/-- A connection. -/
def tcpSocketShape : Shape := .record (texts ["host"] ++ [("port", .int32OrText)])

/-- What is done when a container starts or stops. -/
def handlerShape : Shape :=
  .record [("exec", execShape), ("httpGet", httpGetShape),
    ("sleep", .record [("seconds", .int64)]), ("tcpSocket", tcpSocketShape)]

/-- How the health of a container is probed. -/
def probeShape : Shape :=
  .record (fieldsOf .int32 ["failureThreshold", "initialDelaySeconds", "periodSeconds",
      "successThreshold", "timeoutSeconds"] ++
    [("exec", execShape), ("grpc", .record (texts ["service"] ++ [("port", .int32)])),
      ("httpGet", httpGetShape), ("tcpSocket", tcpSocketShape),
      ("terminationGracePeriodSeconds", .int64)])

/-- A port of a container. -/
def portShape : Shape :=
  .record (texts ["hostIP", "name", "protocol"] ++ fieldsOf .int32 ["containerPort", "hostPort"])

/-- The resources that are asked for. -/
def resourcesShape : Shape :=
  .record (fieldsOf quantitiesShape ["limits", "requests"] ++
    [("claims", .list (.record (texts ["name", "request"])))])

/-- Where a volume is mounted. -/
def mountShape : Shape :=
  .record (texts ["mountPath", "mountPropagation", "name", "recursiveReadOnly", "subPath",
    "subPathExpr"] ++ flags ["readOnly"])

/-- The fields of a container. -/
def containerFields : Fields :=
  texts ["image", "imagePullPolicy", "name", "restartPolicy", "terminationMessagePath",
    "terminationMessagePolicy", "workingDir"] ++
  flags ["stdin", "stdinOnce", "tty"] ++
  fieldsOf .textList ["args", "command"] ++
  fieldsOf probeShape ["livenessProbe", "readinessProbe", "startupProbe"] ++
  [("env", .list envShape), ("envFrom", .list envFromShape),
    ("lifecycle", .record (fieldsOf handlerShape ["postStart", "preStop"])),
    ("ports", .list portShape),
    ("resizePolicy", .list (.record (texts ["resourceName", "restartPolicy"]))),
    ("resources", resourcesShape), ("securityContext", containerSecurityShape),
    ("volumeDevices", .list (.record (texts ["devicePath", "name"]))),
    ("volumeMounts", .list mountShape)]

/-- A container. -/
def containerShape : Shape := .record containerFields

/-- A container that was put into a running pod. -/
def ephemeralContainerShape : Shape :=
  .record (containerFields ++ texts ["targetContainerName"])

/-! ## Volumes -/

/-- Keys of an object as files. -/
def keyFilesShape : Shape :=
  .list (.record (texts ["key", "path"] ++ [("mode", .int32)]))

/-- Fields of the pod as files. -/
def podFilesShape : Shape :=
  .list (.record (texts ["path"] ++ [("fieldRef", fieldRefShape), ("mode", .int32),
    ("resourceFieldRef", resourceFieldRefShape)]))

/-- A claim of a volume that is made for a pod. -/
def claimTemplateShape : Shape :=
  .record [("metadata", metadataShape),
    ("spec", .record (texts ["storageClassName", "volumeAttributesClassName", "volumeMode",
        "volumeName"] ++
      [("accessModes", .textList),
        ("dataSource", .record (texts ["apiGroup", "kind", "name"])),
        ("dataSourceRef", .record (texts ["apiGroup", "kind", "name", "namespace"])),
        ("resources", .record (fieldsOf quantitiesShape ["limits", "requests"])),
        ("selector", labelSelectorShape)]))]

/-- One of several sources of a volume. -/
def projectionShape : Shape :=
  .record [
    ("clusterTrustBundle", .record (texts ["name", "path", "signerName"] ++ flags ["optional"] ++
      [("labelSelector", labelSelectorShape)])),
    ("configMap", .record (texts ["name"] ++ flags ["optional"] ++ [("items", keyFilesShape)])),
    ("downwardAPI", .record [("items", podFilesShape)]),
    ("secret", .record (texts ["name"] ++ flags ["optional"] ++ [("items", keyFilesShape)])),
    ("serviceAccountToken", .record (texts ["audience", "path"] ++
      [("expirationSeconds", .int64)]))]

/-- A source of a volume that can be read-only. -/
def sourceShape (names : List String) (more : Fields) : Shape :=
  .record (texts names ++ flags ["readOnly"] ++ more)

/-- A volume, with fields for every source that it may come from. -/
def volumeShape : Shape :=
  .record (texts ["name"] ++ [
    ("awsElasticBlockStore", sourceShape ["fsType", "volumeID"] [("partition", .int32)]),
    ("azureDisk", sourceShape ["cachingMode", "diskName", "diskURI", "fsType", "kind"] []),
    ("azureFile", sourceShape ["secretName", "shareName"] []),
    ("cephfs", sourceShape ["path", "secretFile", "user"]
      [("monitors", .textList), ("secretRef", nameShape)]),
    ("cinder", sourceShape ["fsType", "volumeID"] [("secretRef", nameShape)]),
    ("configMap", .record (texts ["name"] ++ flags ["optional"] ++
      [("defaultMode", .int32), ("items", keyFilesShape)])),
    ("csi", sourceShape ["driver", "fsType"]
      [("nodePublishSecretRef", nameShape), ("volumeAttributes", .textMap)]),
    ("downwardAPI", .record [("defaultMode", .int32), ("items", podFilesShape)]),
    ("emptyDir", .record (texts ["medium"] ++ [("sizeLimit", quantityShape)])),
    ("ephemeral", .record [("volumeClaimTemplate", claimTemplateShape)]),
    ("fc", sourceShape ["fsType"]
      [("lun", .int32), ("targetWWNs", .textList), ("wwids", .textList)]),
    ("flexVolume", sourceShape ["driver", "fsType"]
      [("options", .textMap), ("secretRef", nameShape)]),
    ("flocker", .record (texts ["datasetName", "datasetUUID"])),
    ("gcePersistentDisk", sourceShape ["fsType", "pdName"] [("partition", .int32)]),
    ("gitRepo", .record (texts ["directory", "repository", "revision"])),
    ("glusterfs", sourceShape ["endpoints", "path"] []),
    ("hostPath", .record (texts ["path", "type"])),
    ("image", .record (texts ["pullPolicy", "reference"])),
    ("iscsi", sourceShape ["fsType", "initiatorName", "iqn", "iscsiInterface", "targetPortal"]
      (flags ["chapAuthDiscovery", "chapAuthSession"] ++
        [("lun", .int32), ("portals", .textList), ("secretRef", nameShape)])),
    ("nfs", sourceShape ["path", "server"] []),
    ("persistentVolumeClaim", sourceShape ["claimName"] []),
    ("photonPersistentDisk", .record (texts ["fsType", "pdID"])),
    ("portworxVolume", sourceShape ["fsType", "volumeID"] []),
    ("projected", .record [("defaultMode", .int32), ("sources", .list projectionShape)]),
    ("quobyte", sourceShape ["group", "registry", "tenant", "user", "volume"] []),
    ("rbd", sourceShape ["fsType", "image", "keyring", "pool", "user"]
      [("monitors", .textList), ("secretRef", nameShape)]),
    ("scaleIO", sourceShape ["fsType", "gateway", "protectionDomain", "storageMode",
        "storagePool", "system", "volumeName"]
      [("secretRef", nameShape), ("sslEnabled", .bool)]),
    ("secret", .record (texts ["secretName"] ++ flags ["optional"] ++
      [("defaultMode", .int32), ("items", keyFilesShape)])),
    ("storageos", sourceShape ["fsType", "volumeName", "volumeNamespace"]
      [("secretRef", nameShape)]),
    ("vsphereVolume", .record (texts ["fsType", "storagePolicyID", "storagePolicyName",
      "volumePath"]))])

/-! ## The pod -/

/-- What a pod is to be. -/
def podSpecShape : Shape :=
  .record (texts ["dnsPolicy", "hostname", "nodeName", "preemptionPolicy", "priorityClassName",
      "restartPolicy", "runtimeClassName", "schedulerName", "serviceAccount",
      "serviceAccountName", "subdomain"] ++
    flags ["automountServiceAccountToken", "enableServiceLinks", "hostIPC", "hostNetwork",
      "hostPID", "hostUsers", "setHostnameAsFQDN", "shareProcessNamespace"] ++
    fieldsOf .int64 ["activeDeadlineSeconds", "terminationGracePeriodSeconds"] ++
    fieldsOf (.list containerShape) ["containers", "initContainers"] ++
    [("affinity", affinityShape),
      ("dnsConfig", .record (fieldsOf .textList ["nameservers", "searches"] ++
        [("options", .list pairShape)])),
      ("ephemeralContainers", .list ephemeralContainerShape),
      ("hostAliases", .list (.record (texts ["ip"] ++ [("hostnames", .textList)]))),
      ("imagePullSecrets", .list nameShape),
      ("nodeSelector", .textMap),
      ("os", nameShape),
      ("overhead", quantitiesShape),
      ("priority", .int32),
      ("readinessGates", .list (.record (texts ["conditionType"]))),
      ("resourceClaims", .list (.record (texts ["name", "resourceClaimName",
        "resourceClaimTemplateName"]))),
      ("resources", resourcesShape),
      ("schedulingGates", .list nameShape),
      ("securityContext", podSecurityShape),
      ("tolerations", .list tolerationShape),
      ("topologySpreadConstraints", .list spreadShape),
      ("volumes", .list volumeShape)])

/-- What a container is doing. -/
def containerStateShape : Shape :=
  .record [
    ("running", .record (times ["startedAt"])),
    ("terminated", .record (texts ["containerID", "message", "reason"] ++
      fieldsOf .int32 ["exitCode", "signal"] ++ times ["finishedAt", "startedAt"])),
    ("waiting", .record (texts ["message", "reason"]))]

/-- What has become of a container. -/
def containerStatusShape : Shape :=
  .record (texts ["containerID", "image", "imageID", "name"] ++ flags ["ready", "started"] ++
    fieldsOf containerStateShape ["lastState", "state"] ++
    [("allocatedResources", quantitiesShape),
      ("allocatedResourcesStatus", .list (.record (texts ["name"] ++
        [("resources", .list (.record (texts ["health", "resourceID"])))]))),
      ("resources", resourcesShape),
      ("restartCount", .int32),
      ("user", .record [("linux", .record [("gid", .int64), ("supplementalGroups", .list .int64),
        ("uid", .int64)])]),
      ("volumeMounts", .list (.record (texts ["mountPath", "name", "recursiveReadOnly"] ++
        flags ["readOnly"])))])

/-- What has become of a pod. -/
def podStatusShape : Shape :=
  .record (texts ["hostIP", "message", "nominatedNodeName", "phase", "podIP", "qosClass",
      "reason", "resize"] ++
    times ["startTime"] ++
    fieldsOf (.list (.record (texts ["ip"]))) ["hostIPs", "podIPs"] ++
    fieldsOf (.list containerStatusShape)
      ["containerStatuses", "ephemeralContainerStatuses", "initContainerStatuses"] ++
    [("conditions", .list (.record (texts ["message", "reason", "status", "type"] ++
        times ["lastProbeTime", "lastTransitionTime"]))),
      ("resourceClaimStatuses", .list (.record (texts ["name", "resourceClaimName"])))])

/-- A pod. -/
def podShape : Shape :=
  .record [("apiVersion", .exactly "v1"), ("kind", .exactly "Pod"), ("metadata", metadataShape),
    ("spec", podSpecShape), ("status", podStatusShape)]

end BackupMonitor.Api
