import CertRenewal.Cluster.Shape

/-!
# The shapes of metadata, pods, nodes and secrets

The tables of the fields that the cluster's own objects have, with the required ones first.
-/

namespace CertRenewal.Cluster.Shape

/-! ## Metadata -/

def ownerReference : Shape :=
  .record (texts ["apiVersion", "kind", "name", "uid"])
    [("blockOwnerDeletion", .bool), ("controller", .bool)]

/-- Who manages which fields of an object. -/
def managedFields : Shape :=
  options
    ([("fieldsV1", .any), ("time", .timestamp)] ++
      texts ["apiVersion", "fieldsType", "manager", "operation", "subresource"])

def metadata : Shape :=
  options
    ([("annotations", .map .string), ("creationTimestamp", .timestamp),
        ("deletionGracePeriodSeconds", .integer64), ("deletionTimestamp", .timestamp),
        ("finalizers", strings), ("generation", .integer64), ("labels", .map .string),
        ("managedFields", .list managedFields), ("ownerReferences", .list ownerReference)] ++
      texts ["clusterName", "generateName", "name", "namespace", "resourceVersion", "selfLink",
        "uid"])

def listMetadata : Shape :=
  options (("remainingItemCount", .integer64) :: texts ["continue", "resourceVersion", "selfLink"])

/-! ## Selectors and resources -/

def requirement : Shape := .record (texts ["key", "operator"]) [("values", strings)]

def labelSelector : Shape :=
  options [("matchExpressions", .list requirement), ("matchLabels", .map .string)]

/-- Limits and requests. -/
def resources : Shape := options [("limits", .map .string), ("requests", .map .string)]

def localReference : Shape := options (texts ["name"])

/-! ## Containers -/

def fieldSelector : Shape := .record (texts ["fieldPath"]) (texts ["apiVersion"])

def resourceSelector : Shape := .record (texts ["resource"]) (texts ["containerName", "divisor"])

def keySelector : Shape := .record (texts ["key"]) [("name", .string), ("optional", .bool)]

def environmentVariable : Shape :=
  .record (texts ["name"])
    [("value", .string),
      ("valueFrom", options
        [("configMapKeyRef", keySelector), ("fieldRef", fieldSelector),
          ("resourceFieldRef", resourceSelector), ("secretKeyRef", keySelector)])]

def environmentSource : Shape :=
  let source := options [("name", .string), ("optional", .bool)]
  options [("configMapRef", source), ("prefix", .string), ("secretRef", source)]

def execAction : Shape := options [("command", strings)]

def httpAction : Shape :=
  .record [("port", .integerOrString)]
    (("httpHeaders", .list (.record (texts ["name", "value"]) [])) ::
      texts ["host", "path", "scheme"])

def socketAction : Shape := .record [("port", .integerOrString)] (texts ["host"])

/-- What is done when a container starts or stops. -/
def lifecycle : Shape :=
  let handler := options
    [("exec", execAction), ("httpGet", httpAction), ("tcpSocket", socketAction)]
  options [("postStart", handler), ("preStop", handler)]

def probe : Shape :=
  options
    [("exec", execAction), ("failureThreshold", .integer32),
      ("grpc", .record [("port", .integer32)] (texts ["service"])), ("httpGet", httpAction),
      ("initialDelaySeconds", .integer32), ("periodSeconds", .integer32),
      ("successThreshold", .integer32), ("tcpSocket", socketAction),
      ("terminationGracePeriodSeconds", .integer64), ("timeoutSeconds", .integer32)]

/-- The options of the security contexts of pods and containers. -/
def securityOptions : List (String × Shape) :=
  [("runAsGroup", .integer64), ("runAsNonRoot", .bool), ("runAsUser", .integer64),
    ("seLinuxOptions", options (texts ["level", "role", "type", "user"])),
    ("seccompProfile", .record (texts ["type"]) (texts ["localhostProfile"])),
    ("windowsOptions", options
      (("hostProcess", .bool) ::
        texts ["gmsaCredentialSpec", "gmsaCredentialSpecName", "runAsUserName"]))]

def containerSecurity : Shape :=
  options
    (securityOptions ++
      [("allowPrivilegeEscalation", .bool),
        ("capabilities", options [("add", strings), ("drop", strings)]), ("privileged", .bool),
        ("procMount", .string), ("readOnlyRootFilesystem", .bool)])

def containerPort : Shape :=
  .record [("containerPort", .integer32)]
    (("hostPort", .integer32) :: texts ["hostIP", "name", "protocol"])

def volumeMount : Shape :=
  .record (texts ["mountPath", "name"])
    (("readOnly", .bool) :: texts ["mountPropagation", "subPath", "subPathExpr"])

def containerOptions : List (String × Shape) :=
  [("args", strings), ("command", strings), ("env", .list environmentVariable),
    ("envFrom", .list environmentSource), ("lifecycle", lifecycle), ("livenessProbe", probe),
    ("ports", .list containerPort), ("readinessProbe", probe), ("resources", resources),
    ("securityContext", containerSecurity), ("startupProbe", probe), ("stdin", .bool),
    ("stdinOnce", .bool), ("tty", .bool),
    ("volumeDevices", .list (.record (texts ["devicePath", "name"]) [])),
    ("volumeMounts", .list volumeMount)] ++
  texts ["image", "imagePullPolicy", "terminationMessagePath", "terminationMessagePolicy",
    "workingDir"]

def container : Shape := .record (texts ["name"]) containerOptions

/-- A container that is added to a running pod. -/
def ephemeralContainer : Shape :=
  .record (texts ["name"]) (("targetContainerName", .string) :: containerOptions)

/-! ## Scheduling -/

def nodeTerm : Shape :=
  options [("matchExpressions", .list requirement), ("matchFields", .list requirement)]

def podTerm : Shape :=
  .record (texts ["topologyKey"])
    [("labelSelector", labelSelector), ("namespaceSelector", labelSelector),
      ("namespaces", strings)]

def podAffinity : Shape :=
  options
    [("preferredDuringSchedulingIgnoredDuringExecution",
        .list (.record [("podAffinityTerm", podTerm), ("weight", .integer32)] [])),
      ("requiredDuringSchedulingIgnoredDuringExecution", .list podTerm)]

def affinity : Shape :=
  options
    [("nodeAffinity", options
        [("preferredDuringSchedulingIgnoredDuringExecution",
            .list (.record [("preference", nodeTerm), ("weight", .integer32)] [])),
          ("requiredDuringSchedulingIgnoredDuringExecution",
            .record [("nodeSelectorTerms", .list nodeTerm)] [])]),
      ("podAffinity", podAffinity), ("podAntiAffinity", podAffinity)]

def toleration : Shape :=
  options (("tolerationSeconds", .integer64) :: texts ["effect", "key", "operator", "value"])

def spreadConstraint : Shape :=
  .record [("maxSkew", .integer32), ("topologyKey", .string), ("whenUnsatisfiable", .string)]
    [("labelSelector", labelSelector), ("minDomains", .integer32)]

/-! ## Volumes -/

/-- A key of a map or secret that becomes a file. -/
def keyFile : Shape := .record (texts ["key", "path"]) [("mode", .integer32)]

def fieldFile : Shape :=
  .record (texts ["path"])
    [("fieldRef", fieldSelector), ("mode", .integer32), ("resourceFieldRef", resourceSelector)]

/-- A source of volumes projected into one. -/
def projection : Shape :=
  let keys := options [("items", .list keyFile), ("name", .string), ("optional", .bool)]
  options
    [("configMap", keys), ("downwardAPI", options [("items", .list fieldFile)]), ("secret", keys),
      ("serviceAccountToken", .record (texts ["path"])
        [("audience", .string), ("expirationSeconds", .integer64)])]

def typedReference : Shape := .record (texts ["kind", "name"]) (texts ["apiGroup"])

def volumeClaim : Shape :=
  options
    ([("accessModes", strings), ("dataSource", typedReference), ("dataSourceRef", typedReference),
        ("resources", resources), ("selector", labelSelector)] ++
      texts ["storageClassName", "volumeMode", "volumeName"])

/-- The sources of volumes on disks of cloud providers. -/
def cloudVolumes : List (String × Shape) :=
  [("awsElasticBlockStore", .record (texts ["volumeID"])
      [("fsType", .string), ("partition", .integer32), ("readOnly", .bool)]),
    ("azureDisk", .record (texts ["diskName", "diskURI"])
      (("readOnly", .bool) :: texts ["cachingMode", "fsType", "kind"])),
    ("azureFile", .record (texts ["secretName", "shareName"]) [("readOnly", .bool)]),
    ("cinder", .record (texts ["volumeID"])
      [("fsType", .string), ("readOnly", .bool), ("secretRef", localReference)]),
    ("gcePersistentDisk", .record (texts ["pdName"])
      [("fsType", .string), ("partition", .integer32), ("readOnly", .bool)]),
    ("photonPersistentDisk", .record (texts ["pdID"]) (texts ["fsType"])),
    ("vsphereVolume", .record (texts ["volumePath"])
      (texts ["fsType", "storagePolicyID", "storagePolicyName"]))]

def networkVolumes : List (String × Shape) :=
  [("cephfs", .record [("monitors", strings)]
      ([("readOnly", .bool), ("secretRef", localReference)] ++
        texts ["path", "secretFile", "user"])),
    ("csi", .record (texts ["driver"])
      [("fsType", .string), ("nodePublishSecretRef", localReference), ("readOnly", .bool),
        ("volumeAttributes", .map .string)]),
    ("fc", options
      [("fsType", .string), ("lun", .integer32), ("readOnly", .bool), ("targetWWNs", strings),
        ("wwids", strings)]),
    ("flexVolume", .record (texts ["driver"])
      [("fsType", .string), ("options", .map .string), ("readOnly", .bool),
        ("secretRef", localReference)]),
    ("flocker", options (texts ["datasetName", "datasetUUID"])),
    ("glusterfs", .record (texts ["endpoints", "path"]) [("readOnly", .bool)]),
    ("iscsi", .record [("iqn", .string), ("lun", .integer32), ("targetPortal", .string)]
      ([("chapAuthDiscovery", .bool), ("chapAuthSession", .bool), ("portals", strings),
          ("readOnly", .bool), ("secretRef", localReference)] ++
        texts ["fsType", "initiatorName", "iscsiInterface"])),
    ("nfs", .record (texts ["path", "server"]) [("readOnly", .bool)]),
    ("portworxVolume", .record (texts ["volumeID"]) [("fsType", .string), ("readOnly", .bool)]),
    ("quobyte", .record (texts ["registry", "volume"])
      (("readOnly", .bool) :: texts ["group", "tenant", "user"])),
    ("rbd", .record [("image", .string), ("monitors", strings)]
      ([("readOnly", .bool), ("secretRef", localReference)] ++
        texts ["fsType", "keyring", "pool", "user"])),
    ("scaleIO", .record [("gateway", .string), ("secretRef", localReference), ("system", .string)]
      ([("readOnly", .bool), ("sslEnabled", .bool)] ++
        texts ["fsType", "protectionDomain", "storageMode", "storagePool", "volumeName"])),
    ("storageos", options
      ([("readOnly", .bool), ("secretRef", localReference)] ++
        texts ["fsType", "volumeName", "volumeNamespace"]))]

/-- The sources of volumes within the cluster. -/
def localVolumes : List (String × Shape) :=
  [("configMap", options
      [("defaultMode", .integer32), ("items", .list keyFile), ("name", .string),
        ("optional", .bool)]),
    ("downwardAPI", options [("defaultMode", .integer32), ("items", .list fieldFile)]),
    ("emptyDir", options (texts ["medium", "sizeLimit"])),
    ("ephemeral", options
      [("volumeClaimTemplate", .record [("spec", volumeClaim)] [("metadata", metadata)])]),
    ("gitRepo", .record (texts ["repository"]) (texts ["directory", "revision"])),
    ("hostPath", .record (texts ["path"]) (texts ["type"])),
    ("persistentVolumeClaim", .record (texts ["claimName"]) [("readOnly", .bool)]),
    ("projected", options [("defaultMode", .integer32), ("sources", .list projection)]),
    ("secret", options
      [("defaultMode", .integer32), ("items", .list keyFile), ("optional", .bool),
        ("secretName", .string)])]

def volume : Shape := .record (texts ["name"]) (localVolumes ++ networkVolumes ++ cloudVolumes)

/-! ## Pods -/

def podSecurity : Shape :=
  options
    (securityOptions ++
      [("fsGroup", .integer64), ("fsGroupChangePolicy", .string),
        ("supplementalGroups", .list .integer64),
        ("sysctls", .list (.record (texts ["name", "value"]) []))])

def podSpec : Shape :=
  .record [("containers", .list container)]
    ([("activeDeadlineSeconds", .integer64), ("affinity", affinity),
        ("automountServiceAccountToken", .bool),
        ("dnsConfig", options
          [("nameservers", strings), ("options", .list (options (texts ["name", "value"]))),
            ("searches", strings)]),
        ("enableServiceLinks", .bool), ("ephemeralContainers", .list ephemeralContainer),
        ("hostAliases", .list (options [("hostnames", strings), ("ip", .string)])),
        ("hostIPC", .bool), ("hostNetwork", .bool), ("hostPID", .bool),
        ("imagePullSecrets", .list localReference), ("initContainers", .list container),
        ("nodeSelector", .map .string), ("os", .record (texts ["name"]) []),
        ("overhead", .map .string), ("priority", .integer32),
        ("readinessGates", .list (.record (texts ["conditionType"]) [])),
        ("securityContext", podSecurity), ("setHostnameAsFQDN", .bool),
        ("shareProcessNamespace", .bool), ("terminationGracePeriodSeconds", .integer64),
        ("tolerations", .list toleration),
        ("topologySpreadConstraints", .list spreadConstraint), ("volumes", .list volume)] ++
      texts ["dnsPolicy", "hostname", "nodeName", "preemptionPolicy", "priorityClassName",
        "restartPolicy", "runtimeClassName", "schedulerName", "serviceAccount",
        "serviceAccountName", "subdomain"])

def containerState : Shape :=
  options
    [("running", options [("startedAt", .timestamp)]),
      ("terminated", .record [("exitCode", .integer32)]
        ([("finishedAt", .timestamp), ("signal", .integer32), ("startedAt", .timestamp)] ++
          texts ["containerID", "message", "reason"])),
      ("waiting", options (texts ["message", "reason"]))]

def containerStatus : Shape :=
  .record
    [("image", .string), ("imageID", .string), ("name", .string), ("ready", .bool),
      ("restartCount", .integer32)]
    [("containerID", .string), ("lastState", containerState), ("started", .bool),
      ("state", containerState)]

/-- A condition with the time at which it was last looked at. -/
def condition (lastSeen : String) : Shape :=
  .record (texts ["status", "type"])
    ([(lastSeen, .timestamp), ("lastTransitionTime", .timestamp)] ++ texts ["message", "reason"])

def podStatus : Shape :=
  options
    ([("conditions", .list (condition "lastProbeTime")),
        ("containerStatuses", .list containerStatus),
        ("ephemeralContainerStatuses", .list containerStatus),
        ("initContainerStatuses", .list containerStatus),
        ("podIPs", .list (options (texts ["ip"]))), ("startTime", .timestamp)] ++
      texts ["hostIP", "message", "nominatedNodeName", "phase", "podIP", "qosClass", "reason"])

/-! ## Nodes -/

def configSource : Shape :=
  options
    [("configMap", .record (texts ["kubeletConfigKey", "name", "namespace"])
      (texts ["resourceVersion", "uid"]))]

def nodeSpec : Shape :=
  options
    ([("configSource", configSource), ("podCIDRs", strings),
        ("taints", .list (.record (texts ["effect", "key"])
          [("timeAdded", .timestamp), ("value", .string)])),
        ("unschedulable", .bool)] ++
      texts ["externalID", "podCIDR", "providerID"])

def nodeStatus : Shape :=
  options
    [("addresses", .list (.record (texts ["address", "type"]) [])),
      ("allocatable", .map .string), ("capacity", .map .string),
      ("conditions", .list (condition "lastHeartbeatTime")),
      ("config", options
        [("active", configSource), ("assigned", configSource), ("error", .string),
          ("lastKnownGood", configSource)]),
      ("daemonEndpoints", options [("kubeletEndpoint", .record [("Port", .integer32)] [])]),
      ("images", .list (options [("names", strings), ("sizeBytes", .integer64)])),
      ("nodeInfo", .record
        (texts ["architecture", "bootID", "containerRuntimeVersion", "kernelVersion",
          "kubeProxyVersion", "kubeletVersion", "machineID", "operatingSystem", "osImage",
          "systemUUID"]) []),
      ("phase", .string),
      ("volumesAttached", .list (.record (texts ["devicePath", "name"]) [])),
      ("volumesInUse", strings)]

end CertRenewal.Cluster.Shape
