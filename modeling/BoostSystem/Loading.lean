import BoostSystem.Asynchrony
import BoostSystem.Lifecycle

/-!
# Loading the module

`initialize` of `src/lib/index.ts` with the requests that it awaits: the binary from the first mirror
that serves it whole, the factory from the first mirror that can be imported, and the instance. Calls
overlap, each with answers of its own. The staged calls of the lifecycle are what remains of them if the
requests are forgotten.
-/

namespace BoostSystem.Loading

open Api Asynchrony Runs

inductive Source where
  | installed
  | mirror (url : String)
deriving DecidableEq

inductive Request where
  | readFile
  | fetch (url : String)
  | arrayBuffer (url : String)
  | importModule (source : Source)
  | moduleFactory (binary : Option Source) (factory : Source)
deriving DecidableEq

/-- `response.ok` of a fetch. Binaries and factories are known by their source. -/
def Answer : Request → Type
  | .fetch _ => Bool
  | _ => Unit

/-- Errors are the texts that a template string makes of them. -/
abbrev Load (α : Type) : Type := Async Request Answer String α

/-- No call makes a request twice. -/
abbrev Environment : Type := Answers Request Answer String

def fetch (url : String) : Load Bool := Async.request (Request.fetch url)

def arrayBuffer (url : String) : Load Unit := Async.request (Request.arrayBuffer url)

def readFile : Load Unit := Async.request Request.readFile

def importModule (source : Source) : Load Unit := Async.request (Request.importModule source)

def moduleFactory (binary : Option Source) (factory : Source) : Load Unit :=
  Async.request (Request.moduleFactory binary factory)

def throwNew {α : Type} (message : String) : Load α := .threw ("Error: " ++ message)

def cdnUrls : List String :=
  ["https://wasm.discere.cloud/boost.system/latest/main/",
   "https://cdn.jsdelivr.net/npm/@discere-os/boost.system.wasm/dist/"]

/-- The body of the first loop; `false` for what does not return. -/
def loadFrom (url : String) : Load Bool :=
  Async.tryCatch
    (do
      let ok ← fetch url
      if ok then do
        arrayBuffer url
        return true
      else return false)
    fun _ => return false

def loadFromFirst : List String → Load (Option Source)
  | [] => return none
  | url :: urls => do
    let loaded ← loadFrom url
    if loaded then return some (.mirror url)
    else loadFromFirst urls

def loadWasmBinary (deno : Bool) : Load (Option Source) :=
  if deno then
    Async.tryCatch
      (do
        readFile
        return some .installed)
      fun _ => return none
  else loadFromFirst cdnUrls

def importFromFirst : List String → Load Source
  | [] => throwNew "Failed to load module factory from any source"
  | url :: urls =>
    Async.tryCatch
      (do
        importModule (.mirror url)
        return .mirror url)
      fun _ => importFromFirst urls

def loadModuleFactory (deno : Bool) : Load Source :=
  if deno then do
    importModule .installed
    return .installed
  else importFromFirst cdnUrls

/-- What an instance was made from. -/
structure Origin where
  binary : Option Source
  factory : Source
deriving DecidableEq

/-- The `try` of `initialize`, up to the arrival of the instance. -/
def load (deno : Bool) : Load Origin :=
  Async.tryCatch
    (do
      let binary ← loadWasmBinary deno
      let factory ← loadModuleFactory deno
      moduleFactory binary factory
      return ⟨binary, factory⟩)
    fun error => throwNew ("Failed to initialize BoostSystem: " ++ error)

/-! ### One call by itself -/

def serves (env : Environment) (url : String) : Bool :=
  match env (.fetch url), env (.arrayBuffer url) with
  | .ok true, .ok _ => true
  | _, _ => false

def imports (env : Environment) (source : Source) : Bool :=
  match env (.importModule source) with
  | .ok _ => true
  | .error _ => false

/-- The binary is the first that is served whole, and its absence is no failure. -/
def binaryOf (deno : Bool) (env : Environment) : Option Source :=
  if deno then
    match env .readFile with
    | .ok _ => some .installed
    | .error _ => none
  else (cdnUrls.find? (serves env)).map .mirror

def factoryFrom (env : Environment) (urls : List String) : Except String Source :=
  match urls.find? fun url => imports env (.mirror url) with
  | some url => .ok (.mirror url)
  | none => .error "Error: Failed to load module factory from any source"

def factoryOf (deno : Bool) (env : Environment) : Except String Source :=
  if deno then (env (.importModule .installed)).map fun _ => .installed
  else factoryFrom env cdnUrls

/-- An instance, or the text of the error that the call throws. -/
def originOf (deno : Bool) (env : Environment) : Except String Origin :=
  ((factoryOf deno env).bind fun factory =>
    (env (.moduleFactory (binaryOf deno env) factory)).map fun _ =>
      ⟨binaryOf deno env, factory⟩).mapError fun error =>
        "Error: " ++ ("Failed to initialize BoostSystem: " ++ error)

section Alone

variable {env : Environment}

theorem outcome_fetch (url : String) : (fetch url).outcome env = env (.fetch url) :=
  Async.outcome_request _

theorem outcome_arrayBuffer (url : String) :
    (arrayBuffer url).outcome env = env (.arrayBuffer url) := Async.outcome_request _

theorem outcome_readFile : readFile.outcome env = env .readFile := Async.outcome_request _

theorem outcome_importModule (source : Source) :
    (importModule source).outcome env = env (.importModule source) := Async.outcome_request _

theorem outcome_moduleFactory (binary : Option Source) (factory : Source) :
    (moduleFactory binary factory).outcome env = env (.moduleFactory binary factory) :=
  Async.outcome_request _

theorem outcome_loadFrom (url : String) : (loadFrom url).outcome env = .ok (serves env url) := by
  unfold loadFrom serves
  rw [Async.outcome_tryCatch, Async.outcome_bind, outcome_fetch]
  cases env (.fetch url) with
  | error e => rfl
  | ok ok =>
    cases ok with
    | false => rfl
    | true =>
      simp only [Except.bind, if_pos, Async.outcome_bind, outcome_arrayBuffer]
      cases env (.arrayBuffer url) with
      | error e => rfl
      | ok _ => rfl

theorem outcome_loadFromFirst (urls : List String) :
    (loadFromFirst urls).outcome env = .ok ((urls.find? (serves env)).map .mirror) := by
  induction urls with
  | nil => rfl
  | cons url urls ih =>
    rw [loadFromFirst, Async.outcome_bind, outcome_loadFrom, List.find?_cons]
    cases serves env url with
    | true => rfl
    | false => exact ih

theorem outcome_loadWasmBinary (deno : Bool) :
    (loadWasmBinary deno).outcome env = .ok (binaryOf deno env) := by
  unfold loadWasmBinary binaryOf
  cases deno with
  | false => exact outcome_loadFromFirst cdnUrls
  | true =>
    rw [if_pos rfl, if_pos rfl, Async.outcome_tryCatch, Async.outcome_bind, outcome_readFile]
    cases env .readFile with
    | error e => rfl
    | ok _ => rfl

theorem outcome_importFromFirst (urls : List String) :
    (importFromFirst urls).outcome env = factoryFrom env urls := by
  induction urls with
  | nil => rfl
  | cons url urls ih =>
    rw [importFromFirst, Async.outcome_tryCatch, Async.outcome_bind, outcome_importModule,
      factoryFrom, List.find?_cons, imports]
    cases env (.importModule (.mirror url)) with
    | error e => exact ih
    | ok _ => rfl

theorem outcome_loadModuleFactory (deno : Bool) :
    (loadModuleFactory deno).outcome env = factoryOf deno env := by
  unfold loadModuleFactory factoryOf
  cases deno with
  | false => exact outcome_importFromFirst cdnUrls
  | true =>
    rw [if_pos rfl, if_pos rfl, Async.outcome_bind, outcome_importModule]
    cases env (.importModule .installed) with
    | error e => rfl
    | ok _ => rfl

theorem outcome_load (deno : Bool) : (load deno).outcome env = originOf deno env := by
  unfold load originOf
  simp only [Async.outcome_tryCatch, Async.outcome_bind, outcome_loadWasmBinary, Except.bind,
    outcome_loadModuleFactory]
  cases factoryOf deno env with
  | error e => rfl
  | ok factory =>
    simp only [outcome_moduleFactory]
    cases env (.moduleFactory (binaryOf deno env) factory) with
    | error e => rfl
    | ok _ => rfl

/-! ### The requests -/

theorem length_requests_loadFrom (url : String) : ((loadFrom url).requests env).length ≤ 2 := by
  refine Async.length_requests_tryCatch_le (m := 2) (n := 0) ?_ fun _ => le_rfl
  refine Async.length_requests_bind_le (m := 1) (n := 1) (Async.length_requests_request _) ?_
  intro ok
  cases ok with
  | false => exact Nat.zero_le 1
  | true =>
    exact Async.length_requests_bind_le (n := 0) (Async.length_requests_request _) fun _ => le_rfl

theorem length_requests_loadFromFirst (urls : List String) :
    ((loadFromFirst urls).requests env).length ≤ 2 * urls.length := by
  induction urls with
  | nil => exact le_rfl
  | cons url urls ih =>
    have hlater : ∀ loaded : Bool, ((if loaded then (pure (some (.mirror url)) : Load (Option Source))
        else loadFromFirst urls).requests env).length ≤ 2 * urls.length := by
      intro loaded
      cases loaded with
      | true => exact Nat.zero_le _
      | false => exact ih
    have hboth := Async.length_requests_bind_le (length_requests_loadFrom url) hlater
    rw [List.length_cons, Nat.mul_succ, Nat.add_comm]
    exact hboth

theorem length_requests_importFromFirst (urls : List String) :
    ((importFromFirst urls).requests env).length ≤ urls.length := by
  induction urls with
  | nil => exact le_rfl
  | cons url urls ih =>
    rw [List.length_cons, Nat.add_comm]
    exact Async.length_requests_tryCatch_le (Async.length_requests_bind_le (n := 0)
      (Async.length_requests_request _) fun _ => le_rfl) fun _ => ih

theorem length_requests_loadWasmBinary (deno : Bool) :
    ((loadWasmBinary deno).requests env).length ≤ 4 := by
  cases deno with
  | false => exact length_requests_loadFromFirst cdnUrls
  | true =>
    exact (Async.length_requests_tryCatch_le (n := 0) (Async.length_requests_bind_le (n := 0)
      (Async.length_requests_request _) fun _ => le_rfl) fun _ => le_rfl).trans (by decide)

theorem length_requests_loadModuleFactory (deno : Bool) :
    ((loadModuleFactory deno).requests env).length ≤ 2 := by
  cases deno with
  | false => exact length_requests_importFromFirst cdnUrls
  | true =>
    exact (Async.length_requests_bind_le (n := 0) (Async.length_requests_request _)
      fun _ => le_rfl).trans (by decide)

/-- Two requests and an import for each mirror, and the instance. -/
theorem length_requests_load (deno : Bool) : ((load deno).requests env).length ≤ 7 :=
  Async.length_requests_tryCatch_le (m := 7) (n := 0)
    (Async.length_requests_bind_le (length_requests_loadWasmBinary deno) fun _ =>
      Async.length_requests_bind_le (length_requests_loadModuleFactory deno) fun _ =>
        Async.length_requests_bind_le (n := 0) (Async.length_requests_request _) fun _ => le_rfl)
    fun _ => le_rfl

end Alone

end BoostSystem.Loading
