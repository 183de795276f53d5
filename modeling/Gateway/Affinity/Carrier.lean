import Gateway.Configuration.Cluster
import Gateway.Event
import Gateway.Http.Cookie

namespace Gateway

/-! Where the protected key of a session travels: in a cookie or in a header of
its own. -/

structure KeyCarrier where
  name : String
  read : AffinityConfig → Http.Request → Option String
  write : AffinityConfig → String → Http.Response → Effect Http.Response

namespace KeyCarrier

open Http

/-- The first cookie of the configured name counts. -/
def readCookie (config : AffinityConfig) (request : Request) : Option String :=
  ((Cookie.ofRequest request).find? (fun cookie => cookie.1 == config.keyName)).map
    Prod.snd

def writeCookie (config : AffinityConfig) (key : String) (response : Response) :
    Effect Response :=
  match Header.value? (Cookie.render config.cookie config.keyName key) with
  | some value =>
      pure { response with headers := response.headers.append "set-cookie" value }
  | none => do
      Effect.tell (.cookieNotWritten config.keyName)
      pure response

def cookie : KeyCarrier where
  name := "Cookie"
  read := readCookie
  write := writeCookie

/-- Several values are joined by commas. No key contains a comma, so that they
select no destination together. -/
def readHeader (config : AffinityConfig) (request : Request) : Option String :=
  let values :=
    match Header.name? config.keyName with
    | some name => request.headers.values name
    | none => []
  if values.isEmpty then none
  else some (String.intercalate "," (values.map Text.ofBytesTolerantly))

def writeHeader (config : AffinityConfig) (key : String) (response : Response) :
    Effect Response :=
  match Header.name? config.keyName with
  | none => do
      Effect.tell (.headerNameInvalid config.keyName)
      pure response
  | some name =>
      match Header.value? key with
      | some value =>
          pure { response with headers := response.headers.replace name value }
      | none => do
          Effect.tell (.headerNotWritten config.keyName)
          pure response

def customHeader : KeyCarrier where
  name := "CustomHeader"
  read := readHeader
  write := writeHeader

def builtin : List KeyCarrier :=
  [cookie, customHeader]

end KeyCarrier

end Gateway
