import Gateway.Http.Message

namespace Gateway.Http.Reply

/-! The responses that the gateway gives by itself. -/

def ofStatus (status : Nat) : Response := { status }

def notFound : Response := { status := 404, body := "404 - page not found" }

def internalServerError : Response := ofStatus 500

def badGateway : Response := ofStatus 502

def serviceUnavailable : Response := ofStatus 503

def gatewayTimeout : Response := ofStatus 504

end Gateway.Http.Reply
