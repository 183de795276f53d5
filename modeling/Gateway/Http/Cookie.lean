import Gateway.Configuration.Cluster
import Gateway.Http.Message
import Gateway.Text.Blank

namespace Gateway.Http.Cookie

/-! Cookies as a client sends them back, and as the gateway sets them. -/

/-- Removes one pair of double quotes around a text. -/
def unquote (characters : List Char) : List Char :=
  match characters with
  | '"' :: rest => if rest.getLast? = some '"' then rest.dropLast else characters
  | _ => characters

/-- Name and value of one part of a cookie header. A part without an equals
sign or without a name is none. -/
def parsePart? (part : List Char) : Option (String × String) :=
  let name := Text.trim (part.takeWhile (fun character => character != '='))
  match part.dropWhile (fun character => character != '=') with
  | [] => none
  | _ :: rest =>
      let value := Text.trim (unquote (Text.trim rest))
      if name.isEmpty then none else some (String.ofList name, String.ofList value)

def parse (header : List Char) : List (String × String) :=
  (Text.splitAt ';' header).filterMap parsePart?

/-- The cookies of a request. A header that is not plain text holds none. -/
def ofRequest (request : Request) : List (String × String) :=
  (request.headers.values "cookie").flatMap (fun content =>
    match Header.plainText? content with
    | some header => parse header
    | none => [])

def property (name : String) (value : Option String) : String :=
  match value with
  | none => ""
  | some value => "; " ++ name ++ "=" ++ value

def flag (name : String) (set : Bool) : String :=
  if set then "; " ++ name else ""

/-- Ages are counted in signed words of milliseconds and shown in whole seconds. -/
def ageInSeconds (milliseconds : Nat) : Nat :=
  min milliseconds 0x7fffffffffffffff / 1000

def render (config : CookieConfig) (name value : String) : String :=
  name ++ "=" ++ value ++ flag "HttpOnly" config.httpOnly ++
    property "SameSite" (config.sameSite.map SameSite.name) ++
      flag "Secure" config.secure ++
    property "Path" config.path ++ property "Domain" config.domain ++
    property "Max-Age" (config.maxAge.map (fun age => toString (ageInSeconds age)))

example : parse " a=1; b = \"2\" ;c".toList = [("a", "1"), ("b", "2")] := by
  decide +kernel

end Gateway.Http.Cookie
