import SignedToken.Guard

/-!
# A desk with shared headers

On a desk lie headers, guards and the settings.  Several documents may share one header, and several
headers one list of names, so that an edit shows in all of them; a copy shares nothing with what it
was copied from.  The settings are read from the environment when they are first consulted, and then
stay until they are dropped.
-/

namespace SignedToken

structure HeaderRef where
  index : Nat
  deriving DecidableEq, Repr

structure GuardRef where
  index : Nat
  deriving DecidableEq, Repr

/-- A header whose list of names lies at a place of its own. -/
structure HeaderCell where
  algorithm : Declared
  keyId : Option Text
  mediaType : Option Text
  critical : Option Nat
  deriving DecidableEq, Repr

structure Desk where
  environment : Environment
  cached : Option Settings
  keyPairs : Bool
  lists : List (List Text)
  headers : List HeaderCell
  guards : List Guard
  history : List Event

/-- A received token whose header lies on a desk. -/
structure StoredToken where
  received : RawToken
  header : HeaderRef

structure StoredData where
  header : HeaderRef
  claims : Value

/-- A change to one member of a header.  The list of names becomes a new one, or the one that
another header has. -/
inductive HeaderEdit where
  | algorithm (value : Declared)
  | keyId (value : Option Text)
  | mediaType (value : Option Text)
  | critical (value : Option (List Text))
  | criticalOf (other : HeaderRef)

namespace Desk

def empty (environment : Environment) : Desk := ⟨environment, none, true, [], [], [], []⟩

/-! ## Settings -/

/-- The settings as they are, or as they would be read now. -/
def settings (desk : Desk) : Settings := desk.cached.getD (.ofEnvironment desk.environment)

def registry (desk : Desk) : Registry := ⟨desk.keyPairs, desk.settings⟩

/-- The settings are fixed once they have been consulted. -/
def consult (desk : Desk) : Desk := { desk with cached := some desk.settings }

/-- Runs an operation; what it did is added to the history. -/
def run {α : Type} (desk : Desk) (operation : Registry → Traced α) : Traced α × Desk :=
  let done := operation desk.registry
  let after := if done.events.contains .consultedSettings then desk.consult else desk
  (done, { after with history := desk.history ++ done.events })

/-- How often a scripted verifier was asked about a header, and how often about a signature. -/
def timesAsked (desk : Desk) (script : Nat) : Nat × Nat :=
  (desk.history.count (.askedHeader script), desk.history.count (.askedSignature script))

/-! ## Headers -/

def view (desk : Desk) (cell : HeaderCell) : Header where
  algorithm := cell.algorithm
  keyId := cell.keyId
  mediaType := cell.mediaType
  critical := cell.critical.map fun index => desk.lists.getD index []

def emptyCell : HeaderCell := ⟨none, none, none, none⟩

def cell (desk : Desk) (ref : HeaderRef) : HeaderCell := desk.headers.getD ref.index emptyCell

def header (desk : Desk) (ref : HeaderRef) : Header := desk.view (desk.cell ref)

def addList (desk : Desk) : Option (List Text) → Option Nat × Desk
  | none => (none, desk)
  | some names => (some desk.lists.length, { desk with lists := desk.lists ++ [names] })

/-- Puts a header on the desk that shares nothing with the others. -/
def addHeader (desk : Desk) (header : Header) : HeaderRef × Desk :=
  let (critical, desk) := desk.addList header.critical
  let cell : HeaderCell := ⟨header.algorithm, header.keyId, header.mediaType, critical⟩
  (⟨desk.headers.length⟩, { desk with headers := desk.headers ++ [cell] })

def copyHeader (desk : Desk) (ref : HeaderRef) : HeaderRef × Desk :=
  desk.addHeader (desk.header ref)

def setCell (desk : Desk) (ref : HeaderRef) (cell : HeaderCell) : Desk :=
  { desk with headers := desk.headers.set ref.index cell }

/-- Changes one member.  Another list of names replaces the old one, which stays where it is shared;
the list of another header is shared with it from then on. -/
def edit (desk : Desk) (ref : HeaderRef) : HeaderEdit → Desk
  | .algorithm value => desk.setCell ref { desk.cell ref with algorithm := value }
  | .keyId value => desk.setCell ref { desk.cell ref with keyId := value }
  | .mediaType value => desk.setCell ref { desk.cell ref with mediaType := value }
  | .critical value =>
    let (critical, after) := desk.addList value
    after.setCell ref { desk.cell ref with critical := critical }
  | .criticalOf other =>
    desk.setCell ref { desk.cell ref with critical := (desk.cell other).critical }

/-- Adds a name to the list of a header, in place; there must be a list. -/
def appendCritical? (desk : Desk) (ref : HeaderRef) (name : Text) : Option Desk :=
  (desk.cell ref).critical.map fun index =>
    { desk with lists := desk.lists.set index (desk.lists.getD index [] ++ [name]) }

/-! ## Documents -/

/-- A stored token with its header as it is now. -/
def token (desk : Desk) (stored : StoredToken) : RawToken :=
  { stored.received with header := desk.header stored.header }

/-- Stored data with its header as it is now. -/
def data (desk : Desk) (stored : StoredData) : TokenData :=
  ⟨desk.header stored.header, stored.claims⟩

def addToken (desk : Desk) (raw : RawToken) : StoredToken × Desk :=
  let (ref, desk) := desk.addHeader raw.header
  (⟨raw, ref⟩, desk)

def addData (desk : Desk) (data : TokenData) : StoredData × Desk :=
  let (ref, desk) := desk.addHeader data.header
  (⟨ref, data.claims⟩, desk)

/-- The claims of a token under a copy of its header. -/
def parse (desk : Desk) (stored : StoredToken) (type : ClaimsType) :
    Except Failure StoredData × Desk :=
  let (ref, desk) := desk.copyHeader stored.header
  ((stored.received.claims type).map (⟨ref, ·⟩), desk)

/-- The claims of a token under its own header, which both share from then on. -/
def parseOwned (stored : StoredToken) (type : ClaimsType) : Except Failure StoredData :=
  (stored.received.claims type).map (⟨stored.header, ·⟩)

/-! ## Guards -/

def addGuard (desk : Desk) (guard : Guard) : GuardRef × Desk :=
  (⟨desk.guards.length⟩, { desk with guards := desk.guards ++ [guard] })

def guard (desk : Desk) (ref : GuardRef) : Guard := desk.guards.getD ref.index Guard.defaults

def configureGuard (desk : Desk) (ref : GuardRef) (options : GuardOptions) : Desk :=
  { desk with guards := desk.guards.set ref.index ((desk.guard ref).configure options) }

end Desk

end SignedToken
