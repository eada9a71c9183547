import AlarmHistory.Bulk.Upload
import AlarmHistory.Config.Basic
import AlarmHistory.Past.Table
import AlarmHistory.Store.Link
import AlarmHistory.Store.Search
import AlarmHistory.Store.Template
/- A client of a document store. It installs the index template before it first uploads, uploads
   batches with as many retries as allowed, and reads all documents back. -/
namespace AlarmHistory.Store

open Bulk

structure Client where
  base : String
  username : Option String
  password : Option String
  target : Target
  retries : Nat
  retryDelayMs : Nat
  timeoutMs : Nat
  templateReady : Bool := false
  deriving DecidableEq, Repr

namespace Client

def dropSlashes (cs : List Char) : List Char := cs.dropWhile (· == '/')

def ofConfig (c : Config) : Client where
  base := String.ofList (dropSlashes c.storeUrl.toList.reverse).reverse
  username := c.username
  password := c.password
  target := ⟨c.indexPrefix, c.granularity⟩
  retries := c.bulkRetries
  retryDelayMs := c.retryDelayMs
  timeoutMs := c.requestTimeoutMs

def address (c : Client) (path : String) : Except StoreError Address :=
  (Address.parse (c.base ++ "/" ++ String.ofList (dropSlashes path.toList))).mapError .unusable

def authorization (c : Client) (a : Address) : Option String :=
  match c.username, a.credentials with
  | some user, _ => some (basicAuthorization user c.password)
  | none, some (user, password) => some (basicAuthorization user password)
  | none, none => none

def request (c : Client) (method : Method) (path contentType body : String) :
    Except StoreError Request :=
  (c.address path).map fun address =>
    { method, address, authorization := c.authorization address, contentType, body,
      timeoutMs := c.timeoutMs }

def templatePath (c : Client) : String := "_index_template/" ++ c.target.indexPrefix

def searchPath (c : Client) : String :=
  indexWildcard c.target.indexPrefix ++ "/_search?ignore_unavailable=true"

def templateRequest (c : Client) : Except StoreError Request :=
  c.request .put c.templatePath "application/json" (templateJson c.target.indexPrefix).text

def bulkRequest (c : Client) (as : List Action) : Except StoreError Request :=
  c.request .post "_bulk" "application/x-ndjson" (body as)

def searchRequest (c : Client) : Except StoreError Request :=
  c.request .post c.searchPath "application/json" searchJson.text

def isSuccess (status : Nat) : Bool := 200 ≤ status && status < 300

def exchange [Monad m] (link : Link m) (r : Except StoreError Request) :
    m (Except StoreError (Nat × String)) :=
  match r with
  | .error e => pure (.error e)
  | .ok r => do
    match ← link.send r with
    | .unanswered => return .error (.unanswered r.address.text)
    | .answered status body => return .ok (status, body)

/-- Installs the template unless that has succeeded before. Failing is no error: the next upload
   tries again. -/
def ensureTemplate [Monad m] (link : Link m) (c : Client) : m Client :=
  if c.templateReady then pure c
  else do
    match ← exchange link c.templateRequest with
    | .ok (status, _) => return if isSuccess status then { c with templateReady := true } else c
    | .error _ => return c

def bulkResults : Except StoreError (Nat × String) → Except StoreError Response
  | .error e => .error e
  | .ok (status, text) =>
    if status != 200 then .error (.status status text)
    else (Json.decodeText Response.decoder text).mapError fun _ => .undecodable

def bulkAnswer (reply : Except StoreError (Nat × String)) : Answer :=
  match bulkResults reply with
  | .ok r => .results r
  | .error e => .noResults e.message

/-- Sends what is pending, again and again while it helps. Every round but the last uses up one of
   the retries, so the fuel lasts when it exceeds them. -/
def rounds [Monad m] (link : Link m) (c : Client) : Nat → Upload → m (Except Report Unit)
  | 0, u => pure (.error (u.report c.target []))
  | fuel + 1, u => do
    let reply ← exchange link (c.bulkRequest (u.actions c.target))
    match u.absorb c.target c.retries (bulkAnswer reply) with
    | .landed => return .ok ()
    | .failed report => return .error report
    | .again u => do
      link.wait (c.retryDelayMs * u.attempts)
      rounds link c fuel u

def upload [Monad m] (link : Link m) (c : Client) (docs : List AlarmDocument) :
    m (Except Report Unit × Client) :=
  if docs.isEmpty then pure (.ok (), c)
  else do
    let c ← c.ensureTemplate link
    let result ← c.rounds link (c.retries + 1) (.ofBatch docs)
    return (result, c)

/-- What an answer to a search says. A body has to be JSON before its shape counts. -/
def searchResults : Except StoreError (Nat × String) → Except StoreError Page
  | .error e => .error e
  | .ok (status, text) =>
    if !isSuccess status then .error (.status status text)
    else
      match Json.ofText text with
      | .error _ => .error .undecodable
      | .ok v => (Page.ofJson v).mapError fun _ => .mismatch

def allAlarms [Monad m] (link : Link m) (c : Client) :
    m (Except StoreError (List AlarmDocument)) := do
  let reply ← exchange link c.searchRequest
  return (searchResults reply).map Page.documents

def table [Monad m] (link : Link m) (c : Client) : m (Except StoreError AlarmTable) := do
  return (← c.allAlarms link).map AlarmTable.mk

end Client
end AlarmHistory.Store
