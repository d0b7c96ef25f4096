import CloudSession.Value

/-! # Defaults

Values in use where the settings say nothing else.
-/

namespace CloudSession.Defaults

/-- Seconds a session stays fresh, and anything derived from it. -/
def sessionInterval : Int := 60

/-- Seconds a login may take. -/
def loginTimeout : Int := 10

/-- Seconds a look at the supported versions may take. -/
def versionsTimeout : Int := 180

/-- Attempts at a fetch that times out. -/
def fetchAttempts : Int := 3

/-- What a provider says when a session lease has run out. -/
def leaseMarker : String := "lease renew"

/-- Most bytes read when looking for the lease marker. -/
def maxPayloadBytes : Int := 65536

def userHeader : String := "X-Auth-User"
def keyHeader : String := "X-Auth-Key"
def tokenHeader : String := "X-Auth-Token"
def storageUrlHeader : String := "X-Storage-Url"
def managementUrlHeader : String := "X-Server-Management-Url"
def cdnUrlHeader : String := "X-CDN-Management-Url"

def vcloudCookie : String := "vcloud-token"
def vcloudHeader : String := "x-vcloud-authorization"

def maxRetries : Int := 5

/-- Seconds of the first nap after a transient failure. -/
def retryDelayStart : Number := .real 0.05

/-- Seconds of the longest nap. -/
def maxDelay : Number := .real 30

/-- Seconds a request may take. -/
def httpTimeout : Int := 60

/-- Statuses that tell of a transient failure of the server. -/
def transientStatuses : List Int := [500, 502, 503, 504]

end CloudSession.Defaults
