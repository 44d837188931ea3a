import LdmLib.Esp
import LdmLib.Run
import LdmLib.Ledger

namespace LDM
set_option autoImplicit true

/-- The fields of `esp_http_client_config_t` that are set: the URL, and whether the response buffer
is attached as user data. -/
structure ClientConfig where
  url : String
  userData : Bool
  deriving DecidableEq, Repr

/-- The `esp_http_client_*` calls that are made on a handle. -/
inductive HandleCall where
  | setMethodPost
  | setHeader (key value : String)
  | setPostField (data : String)
  | openFor (len : Int) (err : EspErr)
  | write (buffer : List UInt8) (len written : Int)
  | perform (err : EspErr)
  | getStatusCode
  | getContentLength
  | close (err : EspErr)
  | cleanup (err : EspErr)
  deriving DecidableEq, Repr

inductive ClientCall where
  | init (config : ClientConfig) (h : Option Nat)
  | on (h : Nat) (k : HandleCall)
  deriving DecidableEq, Repr

/-- A handle counts as given back once it is passed to `cleanup`, whatever that returns. -/
def ClientCall.event : ClientCall → Option (Ledger.Event Nat)
  | .init _ (some h) => some (.acquire h)
  | .init _ none => none
  | .on h (.cleanup _) => some (.release h)
  | .on h _ => some (.use h)

/-- A `cJSON` value, by what the two print functions make of it. -/
structure CJson where
  printUnformatted : Option String
  printBuffered : Nat → Option String

def contentTypeImage : String := "image/jpeg"

/-- An object of class `HTTP_Client`, with the number of handles that `esp_http_client_init` has
returned so far and the calls made, newest first. -/
structure HttpClient where
  url : String
  config : ClientConfig
  client : Option Nat
  issued : Nat
  log : List ClientCall
  deriving DecidableEq, Repr

namespace HttpClient

def events (c : HttpClient) : List (Ledger.Event Nat) := c.log.filterMap ClientCall.event

def call (c : HttpClient) (k : ClientCall) : HttpClient := { c with log := k :: c.log }

def espHttpClientInit (c : HttpClient) (created : Bool) : HttpClient :=
  if created then
    { c.call (.init c.config (some c.issued)) with
      client := some c.issued
      issued := c.issued + 1 }
  else { c.call (.init c.config none) with client := none }

/-- The constructor leaves `client` as it finds it. -/
def construct (url : String) (client : Option Nat) : HttpClient where
  url := url
  config := ⟨url, true⟩
  client := client
  issued := 0
  log := []

structure DeinitEnv where
  close : EspErr
  cleanup : EspErr
  deriving DecidableEq, Repr

def deinit (c : HttpClient) (env : DeinitEnv) : HttpClient × EspErr :=
  match c.client with
  | some h => ({ (c.call (.on h (.close env.close))).call (.on h (.cleanup env.cleanup)) with
      client := none }, env.cleanup)
  | none => (c, .ok)

def setURL (c : HttpClient) (url : String) (env : DeinitEnv) (created : Bool) :
    HttpClient × EspErr :=
  let c := { c with url := url, config := ⟨url, false⟩ }
  ((c.deinit env).1.espHttpClientInit created, .ok)

structure PostEnv where
  created : Bool
  perform : EspErr
  cleanup : EspErr
  deriving DecidableEq, Repr

def espHttpClientPerform (c : HttpClient) (h : Nat) (err : EspErr) : HttpClient :=
  let c := c.call (.on h (.perform err))
  if err = .ok then (c.call (.on h .getStatusCode)).call (.on h .getContentLength) else c

/-- `err = esp_http_client_cleanup(this->client)`; what the request returned is forgotten. -/
def espHttpClientCleanup (c : HttpClient) (h : Nat) (err : EspErr) : HttpClient × EspErr :=
  ({ c.call (.on h (.cleanup err)) with client := none }, err)

def postFormattedJSON (c : HttpClient) (message : Option String) (env : PostEnv) :
    HttpClient × EspErr :=
  let c := c.espHttpClientInit env.created
  match c.client with
  | none => (c, .fail)
  | some h =>
    match message with
    | some m =>
      let c := c.call (.on h .setMethodPost)
      let c := c.call (.on h (.setHeader "Content-Type" "application/json"))
      let c := c.call (.on h (.setPostField m))
      (c.espHttpClientPerform h env.perform).espHttpClientCleanup h env.cleanup
    | none => c.espHttpClientCleanup h env.cleanup

/-- The result of the post is not looked at. -/
def postJSON (c : HttpClient) (message : Option CJson) (size : Nat) (env : PostEnv) :
    HttpClient × EspErr :=
  match message with
  | some m =>
    let postData := if size = 0 then m.printUnformatted else m.printBuffered size
    ((c.postFormattedJSON postData env).1, .ok)
  | none => (c, .ok)

structure PostBufferEnv where
  created : Bool
  openErr : EspErr
  written : Int
  perform : EspErr
  cleanup : EspErr
  deriving DecidableEq, Repr

def setContentType (c : HttpClient) (h : Nat) : Option String → HttpClient
  | none => c
  | some t =>
    let c := c.call (.on h (.setHeader "Content-Type" t))
    if t = contentTypeImage then
      c.call (.on h (.setHeader "Content-Disposition" "inline; filename=capture.jpg"))
    else c

/-- When the connection does not open the function returns without a cleanup. -/
def postBuffer (c : HttpClient) (buffer : Option (List UInt8)) (bufferLen : Int)
    (contentType : Option String) (env : PostBufferEnv) : HttpClient × EspErr :=
  let c := c.espHttpClientInit env.created
  match c.client with
  | none => (c, .fail)
  | some h =>
    match buffer with
    | some b =>
      let c := (c.call (.on h .setMethodPost)).setContentType h contentType
      let c := c.call (.on h (.openFor bufferLen env.openErr))
      if env.openErr ≠ .ok then (c, .fail)
      else
        let c := c.call (.on h (.write b bufferLen env.written))
        (c.espHttpClientPerform h env.perform).espHttpClientCleanup h env.cleanup
    | none => c.espHttpClientCleanup h env.cleanup

inductive Op where
  | setURL (url : String) (env : DeinitEnv) (created : Bool)
  | postJSON (message : Option CJson) (size : Nat) (env : PostEnv)
  | postFormattedJSON (message : Option String) (env : PostEnv)
  | postBuffer (buffer : Option (List UInt8)) (bufferLen : Int) (contentType : Option String)
      (env : PostBufferEnv)
  | deinit (env : DeinitEnv)

def apply (c : HttpClient) : Op → HttpClient × EspErr
  | .setURL url env created => c.setURL url env created
  | .postJSON message size env => c.postJSON message size env
  | .postFormattedJSON message env => c.postFormattedJSON message env
  | .postBuffer buffer bufferLen contentType env => c.postBuffer buffer bufferLen contentType env
  | .deinit env => c.deinit env

def step (c : HttpClient) (op : Op) : HttpClient := (c.apply op).1

def destroy (c : HttpClient) (env : DeinitEnv) : HttpClient := (c.deinit env).1

end HttpClient

end LDM
