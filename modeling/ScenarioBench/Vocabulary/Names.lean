/-! Fixed words of the bench: environment variables, markers, sentinels and defaults. -/

set_option autoImplicit false

namespace ScenarioBench

def version : String := "0.1.0-alpha.1"

namespace Variable

def domainId : String := "STREAMS_DOMAIN_ID"
def instanceId : String := "STREAMS_INSTANCE_ID"
def jmxUser : String := "JMX_USER"
def jmxPassword : String := "JMX_PASSWORD"
def testDomain : String := "TEST_DOMAIN"
def testInstance : String := "TEST_INSTANCE"
def serviceUser : String := "STREAMS_USERNAME"
def servicePassword : String := "STREAMS_PASSWORD"
def serviceName : String := "STREAMING_ANALYTICS_SERVICE_NAME"
/-- The bound services, as a JSON text or the path of a file that holds one. -/
def boundServices : String := "VCAP_SERVICES"

def jmx : List String := [jmxUser, jmxPassword]
def jmxDomain : List String := [domainId, jmxUser, jmxPassword]
def secondDomain : List String := [testDomain, testInstance]
def serviceCredentials : List String := [serviceUser, servicePassword]

end Variable

namespace Marker

def pass : String := "TEST_RESULT_PASS"
/-- Written when the first round of notifications has arrived. -/
def firstSentinel : String := "done_1"
/-- Written when the round after a reconnect has arrived. -/
def secondSentinel : String := "done_2"
def logArchives : String := "StreamsLogsJob*.tgz"
def standalone : String := "output/bin/standalone"
def monitorStandalone : String := "output/monitor/bin/standalone"

end Marker

def defaultTimeoutSeconds : Nat := 180

def defaultPollSeconds : Nat := 1

def defaultConfigFile : String := "harness.toml"

end ScenarioBench
