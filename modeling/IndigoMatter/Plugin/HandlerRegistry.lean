import IndigoMatter.Plugin.MatterModel

/-!
# The cluster handlers

Each handler answers for one cluster: the Indigo device type it creates, whether
it creates that device on a given endpoint, and whether its cluster concerns the
whole node rather than the endpoint it stands on.  A handler without a device type
of its own augments the devices other handlers created.
-/

namespace IndigoMatter.Plugin

abbrev TypeId := String

/-- `ClusterHandler`, as far as routing and creation read it. -/
structure ClusterHandler where
  clusterId : ClusterId
  deviceTypeId : TypeId := ""
  nodeScoped : Bool := false
  isPrimaryFor : EndpointInfo → Bool := fun _ => true

/-- `ENDPOINT_OWNER_CLUSTERS`. -/
def endpointOwnerClusters : List ClusterId := [0x0081, 0x0101, 0x0102, 0x0201, 0x0202]

def clusterOnOff : ClusterId := 0x0006

def clusterLevelControl : ClusterId := 0x0008

def clusterPowerSource : ClusterId := 0x002F

def clusterElectricalPower : ClusterId := 0x0090

def clusterElectricalEnergy : ClusterId := 0x0091

def clusterPowerTopology : ClusterId := 0x009C

def clusterThermostat : ClusterId := 0x0201

def clusterColorControl : ClusterId := 0x0300

/-- Whether a cluster whose handler owns its endpoint is there. -/
def EndpointInfo.hasOwner (endpoint : EndpointInfo) : Bool :=
  endpointOwnerClusters.any endpoint.has

def colorControlHandler : ClusterHandler where
  clusterId := clusterColorControl
  deviceTypeId := "matterColorDimmer"

def levelControlHandler : ClusterHandler where
  clusterId := clusterLevelControl
  deviceTypeId := "matterDimmer"
  isPrimaryFor := fun endpoint =>
    if endpoint.has clusterColorControl then false else !endpoint.hasOwner

def onOffHandler : ClusterHandler where
  clusterId := clusterOnOff
  deviceTypeId := "matterRelay"
  isPrimaryFor := fun endpoint =>
    if endpoint.has clusterLevelControl || endpoint.has clusterColorControl then false
    else !endpoint.hasOwner

/-- A handler that creates its device wherever its cluster is. -/
def additiveHandler (clusterId : ClusterId) (deviceTypeId : TypeId) : ClusterHandler where
  clusterId := clusterId
  deviceTypeId := deviceTypeId

/-- A handler that never creates a device. -/
def augmentingHandler (clusterId : ClusterId) (deviceTypeId : TypeId) : ClusterHandler where
  clusterId := clusterId
  deviceTypeId := deviceTypeId
  isPrimaryFor := fun _ => false

def temperatureHandler : ClusterHandler := additiveHandler 0x0402 "matterTemperatureSensor"

def humidityHandler : ClusterHandler := additiveHandler 0x0405 "matterHumiditySensor"

def occupancyHandler : ClusterHandler := additiveHandler 0x0406 "matterMotionSensor"

def contactHandler : ClusterHandler := additiveHandler 0x0045 "matterContactSensor"

def illuminanceHandler : ClusterHandler := additiveHandler 0x0400 "matterIlluminanceSensor"

def pressureHandler : ClusterHandler := additiveHandler 0x0403 "matterPressureSensor"

def flowHandler : ClusterHandler := additiveHandler 0x0404 "matterFlowSensor"

def thermostatHandler : ClusterHandler := additiveHandler clusterThermostat "matterThermostat"

def fanControlHandler : ClusterHandler where
  clusterId := 0x0202
  deviceTypeId := "matterFan"
  isPrimaryFor := fun endpoint => !endpoint.has clusterThermostat

def windowCoveringHandler : ClusterHandler := additiveHandler 0x0102 "matterWindowCovering"

def doorLockHandler : ClusterHandler := additiveHandler 0x0101 "matterLock"

def valveHandler : ClusterHandler := additiveHandler 0x0081 "matterValve"

def genericSwitchHandler : ClusterHandler := additiveHandler 0x003B "matterButton"

def smokeCOAlarmHandler : ClusterHandler := additiveHandler 0x005C "matterSmokeCOAlarm"

def airQualityHandler : ClusterHandler := additiveHandler 0x005B "matterAirQualitySensor"

def co2Handler : ClusterHandler := additiveHandler 0x040D "matterCO2Sensor"

def pm25Handler : ClusterHandler := additiveHandler 0x042A "matterPM25Sensor"

def tvocHandler : ClusterHandler := additiveHandler 0x042E "matterTVOCSensor"

def electricalPowerHandler : ClusterHandler := augmentingHandler clusterElectricalPower ""

def electricalEnergyHandler : ClusterHandler := augmentingHandler clusterElectricalEnergy ""

def booleanStateConfigHandler : ClusterHandler := augmentingHandler 0x0080 ""

def powerSourceHandler : ClusterHandler where
  clusterId := clusterPowerSource
  nodeScoped := true
  isPrimaryFor := fun _ => false

def basicInformationHandler : ClusterHandler := augmentingHandler 0x0028 "matterNode"

def threadNetworkDiagnosticsHandler : ClusterHandler := augmentingHandler 0x0035 "matterNode"

/-- `default_handlers`, in priority order. -/
def defaultHandlers : List ClusterHandler :=
  [colorControlHandler, levelControlHandler, onOffHandler, temperatureHandler, humidityHandler,
    occupancyHandler, contactHandler, illuminanceHandler, pressureHandler, flowHandler,
    thermostatHandler, fanControlHandler, windowCoveringHandler, doorLockHandler, valveHandler,
    genericSwitchHandler, smokeCOAlarmHandler, airQualityHandler, co2Handler, pm25Handler,
    tvocHandler, electricalPowerHandler, electricalEnergyHandler, booleanStateConfigHandler,
    powerSourceHandler, basicInformationHandler, threadNetworkDiagnosticsHandler]

/-- `handler_for_cluster`. -/
def handlerForCluster (cluster : ClusterId) : Option ClusterHandler :=
  defaultHandlers.find? (·.clusterId = cluster)

/-- The device types `handlers_for_endpoint` plans for an endpoint.  Each primary
handler plans one device of its own type. -/
def handlersForEndpoint (endpoint : EndpointInfo) : List TypeId :=
  (defaultHandlers.filter fun handler =>
    endpoint.has handler.clusterId && handler.isPrimaryFor endpoint).map (·.deviceTypeId)

/-- `cluster in (CLUSTER_ELECTRICAL_POWER, CLUSTER_ELECTRICAL_ENERGY)`. -/
def isElectrical (cluster : ClusterId) : Bool :=
  cluster = clusterElectricalPower || cluster = clusterElectricalEnergy

/-! ## What the table says -/

/-- No endpoint earns a node device. -/
theorem ne_matterNode_of_mem_handlersForEndpoint {endpoint : EndpointInfo} {typeId : TypeId}
    (planned : typeId ∈ handlersForEndpoint endpoint) : typeId ≠ "matterNode" := by
  rcases List.mem_map.mp planned with ⟨handler, listed, rfl⟩
  rw [List.mem_filter, Bool.and_eq_true] at listed
  rcases listed with ⟨known, _, primary⟩
  have augments : ∀ handler ∈ defaultHandlers, handler.deviceTypeId = "matterNode" →
      handler = basicInformationHandler ∨ handler = threadNetworkDiagnosticsHandler := by
    intro handler known
    simp only [defaultHandlers, List.mem_cons, List.not_mem_nil, or_false] at known
    rcases known with rfl | rfl | rfl | rfl | rfl | rfl | rfl | rfl | rfl | rfl | rfl | rfl | rfl |
      rfl | rfl | rfl | rfl | rfl | rfl | rfl | rfl | rfl | rfl | rfl | rfl | rfl | rfl <;>
      first
        | exact fun _ => .inl rfl
        | exact fun _ => .inr rfl
        | exact fun own => absurd own (by decide)
  intro own
  rcases augments handler known own with rfl | rfl
  · cases primary
  · cases primary

theorem handlerForCluster_clusterId {cluster : ClusterId} {handler : ClusterHandler}
    (handled : handlerForCluster cluster = some handler) : handler.clusterId = cluster := by
  simpa using List.find?_some handled

theorem mem_defaultHandlers {cluster : ClusterId} {handler : ClusterHandler}
    (handled : handlerForCluster cluster = some handler) : handler ∈ defaultHandlers :=
  List.mem_of_find?_eq_some handled

/-- Only power sources concern the whole node. -/
theorem nodeScoped_iff {cluster : ClusterId} {handler : ClusterHandler}
    (handled : handlerForCluster cluster = some handler) :
    handler.nodeScoped = true ↔ cluster = clusterPowerSource := by
  rw [← handlerForCluster_clusterId handled]
  have wholeNode : ∀ handler ∈ defaultHandlers,
      (handler.nodeScoped = true ↔ handler.clusterId = clusterPowerSource) := by
    decide
  exact wholeNode handler (mem_defaultHandlers handled)

/-- Measurements of electricity have no device type of their own. -/
theorem deviceTypeId_of_isElectrical {cluster : ClusterId} {handler : ClusterHandler}
    (handled : handlerForCluster cluster = some handler) (electrical : isElectrical cluster = true) :
    handler.deviceTypeId = "" := by
  rw [← handlerForCluster_clusterId handled] at electrical
  have untyped : ∀ handler ∈ defaultHandlers,
      isElectrical handler.clusterId = true → handler.deviceTypeId = "" := by
    decide
  exact untyped handler (mem_defaultHandlers handled) electrical

end IndigoMatter.Plugin
