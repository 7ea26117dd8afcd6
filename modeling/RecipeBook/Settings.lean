import RecipeBook.Failure
import RecipeBook.Json.Reader
import RecipeBook.Url

/-!
# Settings

Settings come from variables, then from a configuration file, which a variable names, then from
defaults. A setting that is given in two places has the value of the first. `Settings.check` refuses
values that nothing can be done with.
-/

namespace RecipeBook

/-- The fields of a configuration file. -/
structure ConfigFile where
  host : Option String
  portNumber : Option Nat
  baseUrl : Option String
  rateLimit : Option Nat
  bodyLimit : Option Nat
  location : Option String
  defaultLang : Option String
  siteName : Option String
  reloadInterval : Option Nat
  deriving DecidableEq, Repr

namespace ConfigFile

def empty : ConfigFile := ⟨none, none, none, none, none, none, none, none, none⟩

open Json.Reader in
/-- Puts the value of a field in; null is no value. -/
def put (name : String) (f : ConfigFile) : Json.Reader ConfigFile := do
  match name with
  | "host" => return { f with host := ← optional text }
  | "port" => return { f with portNumber := ← optional (whole (Number.maxOf 16)) }
  | "base_url" => return { f with baseUrl := ← optional text }
  | "api_rate_limit" => return { f with rateLimit := ← optional (whole (Number.maxOf 64)) }
  | "max_request_body_size" => return { f with bodyLimit := ← optional (whole (Number.maxOf 64)) }
  | "location" => return { f with location := ← optional text }
  | "default_lang" => return { f with defaultLang := ← optional text }
  | "site_name" => return { f with siteName := ← optional text }
  | _ => return { f with reloadInterval := ← optional (whole (Number.maxOf 64)) }

def shape : Json.Reader.Shape ConfigFile where
  names := ["host", "port", "base_url", "api_rate_limit", "max_request_body_size", "location",
    "default_lang", "site_name", "reload_interval_seconds"]
  put := put

def read (text : String) : Except RecordFault ConfigFile := Json.Reader.document shape empty text

end ConfigFile

structure Settings where
  host : String
  portNumber : Nat
  baseUrl : Option String
  /-- Requests per second. -/
  rateLimit : Nat
  /-- The most bytes that the body of a request may have. -/
  bodyLimit : Nat
  location : String
  defaultLang : Option String
  siteName : String
  /-- Seconds between reloads. -/
  reloadInterval : Option Nat
  deriving DecidableEq, Repr

namespace Settings

/-- Variables by name. -/
abbrev Variables := String → Option String

/-- The variable that names the configuration file. -/
def configVariable : String := "COOKBOOK_CONFIG"

/-- The number that a variable holds, blank characters around it left out. -/
def number (vars : Variables) (name : String) (limit : Nat) : Except Failure (Option Nat) :=
  match vars name with
  | none => .ok none
  | some value =>
    match Number.readWhole limit (Text.trim value.toList) with
    | .ok n => .ok (some n)
    | .error _ => .error (.config ("Invalid " ++ name ++ " value"))

/-- The configuration file at a path, given what reading the file gives. -/
def configFile (path : String) (content : Except IoFault ByteArray) :
    Except Failure ConfigFile := do
  match content with
  | .error fault => throw (.io fault)
  | .ok bytes =>
    let some text := String.fromUTF8? bytes | throw (.io .notText)
    match ConfigFile.read text with
    | .ok f => return f
    | .error fault => throw (.config ("Invalid config file " ++ path ++ ": " ++ fault.message))

def combine (vars : Variables) (file : ConfigFile) : Except Failure Settings := do
  let portNumber ← number vars "PORT" (Number.maxOf 16)
  let rateLimit ← number vars "API_RATE_LIMIT" (Number.maxOf 64)
  let bodyLimit ← number vars "MAX_REQUEST_BODY_SIZE" (Number.maxOf 64)
  let reloadInterval ← number vars "RELOAD_INTERVAL" (Number.maxOf 64)
  return {
    host := ((vars "HOST").or file.host).getD "0.0.0.0"
    portNumber := (portNumber.or file.portNumber).getD 8080
    baseUrl := (vars "BASE_URL").or file.baseUrl
    rateLimit := (rateLimit.or file.rateLimit).getD 100
    bodyLimit := (bodyLimit.or file.bodyLimit).getD 65536
    location := ((vars "COOKBOOK_LOCATION").or file.location).getD "./recipes"
    defaultLang := (vars "DEFAULT_LANG").or file.defaultLang
    siteName := ((vars "SITE_NAME").or file.siteName).getD "Cookbook"
    reloadInterval := reloadInterval.or file.reloadInterval }

/-- The settings, given what reading a file gives. -/
def load (vars : Variables) (readFile : String → Except IoFault ByteArray) :
    Except Failure Settings := do
  let file ← match vars configVariable with
    | some path => configFile path (readFile path)
    | none => .ok .empty
  combine vars file

/-- Why the settings cannot be used, if they cannot; `isFolder` says whether the location is one. -/
def check (s : Settings) (isFolder : Bool) : Except Failure Unit := do
  if s.portNumber = 0 then throw (.config "Port must be non-zero")
  if s.rateLimit = 0 then throw (.config "API rate limit must be non-zero")
  match s.baseUrl with
  | some base =>
    match Url.read base with
    | .error fault => throw (.config ("Invalid BASE_URL '" ++ base ++ "': " ++ fault.message))
    | .ok _ => pure ()
  | none => pure ()
  if s.reloadInterval = some 0 then throw (.config "Reload interval must be non-zero")
  if !isFolder then
    throw (.config ("Cookbook location " ++ s.location ++ " is not a directory"))

end Settings
end RecipeBook
