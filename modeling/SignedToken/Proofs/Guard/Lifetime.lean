import Mathlib
import SignedToken.Desk
import SignedToken.Proofs.Keyholder.Acceptance

/-!
# The life of a guard

A guard is made once, configured again any number of times, and asked about
requests in between.  What is given later replaces what was given before, field
by field, and asking changes nothing.  Verifiers may come out of an iterator,
which hands each of them out once; the guard keeps what it got.

There is one exception.  An extractor that stands for falsehood is dropped if it
is given when the guard is made, and kept if it is given later.
-/

namespace SignedToken

/-! ## What is given over time -/

namespace GuardOptions

def nothing : GuardOptions := ⟨none, none, none⟩

/-- What is given first, where nothing is given later. -/
def followedBy (first later : GuardOptions) : GuardOptions where
  verifiers := later.verifiers.or first.verifiers
  claimsType := later.claimsType.or first.claimsType
  extractor := later.extractor.or first.extractor

/-- The last verifiers, claims type and extractor that are given, each on its own. -/
def latest (given : List GuardOptions) : GuardOptions where
  verifiers := (given.filterMap (·.verifiers)).getLast?
  claimsType := (given.filterMap (·.claimsType)).getLast?
  extractor := (given.filterMap (·.extractor)).getLast?

private theorem getLast?_filterMap_cons {α β : Type} (field : α → Option β) (first : α)
    (rest : List α) :
    ((first :: rest).filterMap field).getLast? =
      ((rest.filterMap field).getLast?).or (field first) := by
  cases hfield : field first with
  | none => simp [hfield]
  | some value => simp [hfield, List.getLast?_cons]

theorem latest_cons (first : GuardOptions) (rest : List GuardOptions) :
    latest (first :: rest) = first.followedBy (latest rest) := by
  simp only [latest, followedBy, getLast?_filterMap_cons]

end GuardOptions

namespace Guard

theorem configure_nothing (guard : Guard) : guard.configure .nothing = guard := rfl

theorem configure_configure (guard : Guard) (first later : GuardOptions) :
    (guard.configure first).configure later = guard.configure (first.followedBy later) := by
  simp only [configure, GuardOptions.followedBy, Option.getD_or]

/-- A new guard that is configured later has what was given last, where anything was given. -/
theorem configure_new (first later : GuardOptions) :
    (new first).configure later =
      ⟨(later.verifiers.or first.verifiers).getD [],
        (later.claimsType.or first.claimsType).getD (.schema Schema.claims),
        (later.extractor.or (first.extractor.filter Extractor.truth)).getD
          (.bearer "Authorization" "Bearer")⟩ := by
  simp only [configure, new, Option.getD_or]
  rfl

end Guard

/-! ## Guards on a desk -/

namespace Desk

variable {desk : Desk} {ref : GuardRef}

theorem guard_addGuard (desk : Desk) (guard : Guard) :
    (desk.addGuard guard).2.guard (desk.addGuard guard).1 = guard := by
  simp [addGuard, Desk.guard]

theorem guard_configureGuard (hplaced : ref.index < desk.guards.length) (options : GuardOptions) :
    (desk.configureGuard ref options).guard ref = (desk.guard ref).configure options := by
  simp [configureGuard, Desk.guard, hplaced]

@[simp]
theorem length_guards_configureGuard (desk : Desk) (ref : GuardRef) (options : GuardOptions) :
    (desk.configureGuard ref options).guards.length = desk.guards.length := by
  simp [configureGuard]

@[simp]
theorem guards_run {α : Type} (desk : Desk) (operation : Registry → Traced α) :
    (desk.run operation).2.guards = desk.guards := by
  unfold run
  by_cases hconsulted : (operation desk.registry).events.contains .consultedSettings
  · simp only [if_pos hconsulted]
    rfl
  · simp only [if_neg hconsulted]

/-- The settings that an operation fixes are the ones that it would find anyway. -/
@[simp]
theorem registry_run {α : Type} (desk : Desk) (operation : Registry → Traced α) :
    (desk.run operation).2.registry = desk.registry := by
  unfold run
  by_cases hconsulted : (operation desk.registry).events.contains .consultedSettings
  · simp only [if_pos hconsulted]
    rfl
  · simp only [if_neg hconsulted]
    rfl

end Desk

/-! ## Verifiers that are handed over -/

/-- The verifiers that each iterator still holds. -/
abbrev Iterators := Nat → List Keyholder

/-- Verifiers come in a list, or out of an iterator. -/
inductive Supply where
  | list (verifiers : List Keyholder)
  | iterator (place : Nat)

namespace Supply

def taken (iterators : Iterators) : Supply → List Keyholder
  | .list verifiers => verifiers
  | .iterator place => iterators place

/-- Whoever goes through an iterator leaves it empty. -/
def drained (iterators : Iterators) : Supply → Iterators
  | .list _ => iterators
  | .iterator place => Function.update iterators place []

end Supply

/-- What a caller hands over to configure a guard. -/
structure Handover where
  verifiers : Option Supply
  claimsType : Option ClaimsType
  extractor : Option Extractor

namespace Handover

def options (iterators : Iterators) (given : Handover) : GuardOptions where
  verifiers := given.verifiers.map (·.taken iterators)
  claimsType := given.claimsType
  extractor := given.extractor

def drained (iterators : Iterators) (given : Handover) : Iterators :=
  (given.verifiers.map (·.drained iterators)).getD iterators

end Handover

/-! ## Runs -/

/-- What is done with a guard once it is made. -/
inductive Action where
  | configure (given : Handover)
  | authenticate (request : Http.Request)

namespace Action

/-- What an action gives of a configuration. -/
def options (iterators : Iterators) : Action → GuardOptions
  | .configure given => given.options iterators
  | .authenticate _ => .nothing

def drained (iterators : Iterators) : Action → Iterators
  | .configure given => given.drained iterators
  | .authenticate _ => iterators

/-- What each of several actions gives, at its time. -/
def optionsOf : Iterators → List Action → List GuardOptions
  | _, [] => []
  | iterators, action :: rest =>
    action.options iterators :: optionsOf (action.drained iterators) rest

end Action

/-- A guard at its place on a desk, among the iterators of its callers. -/
structure Service where
  desk : Desk
  ref : GuardRef
  placed : ref.index < desk.guards.length
  iterators : Iterators

namespace Service

/-- A new guard. -/
def start (desk : Desk) (iterators : Iterators) (given : Handover) : Service where
  desk := (desk.addGuard (Guard.new (given.options iterators))).2
  ref := (desk.addGuard (Guard.new (given.options iterators))).1
  placed := by simp [Desk.addGuard]
  iterators := given.drained iterators

def guard (service : Service) : Guard := service.desk.guard service.ref

/-- Asks the guard about a request. -/
def ask (service : Service) (request : Http.Request) : Traced TokenData × Desk :=
  service.desk.run fun registry => service.guard.authenticate registry request

def step (service : Service) : Action → Service
  | .configure given =>
    { service with
      desk := service.desk.configureGuard service.ref (given.options service.iterators)
      placed := by simpa using service.placed
      iterators := given.drained service.iterators }
  | .authenticate request =>
    { service with
      desk := (service.ask request).2
      placed := by simpa [ask] using service.placed }

def run (service : Service) (actions : List Action) : Service := actions.foldl step service

variable {service : Service}

theorem ask_fst (service : Service) (request : Http.Request) :
    (service.ask request).1 = service.guard.authenticate service.desk.registry request := rfl

/-! ### One action -/

/-- A guard changes by what an action gives, and by nothing else. -/
theorem guard_step (service : Service) (action : Action) :
    (service.step action).guard = service.guard.configure (action.options service.iterators) := by
  cases action with
  | configure given => exact Desk.guard_configureGuard service.placed _
  | authenticate request =>
      calc (service.step (.authenticate request)).guard
          = (service.ask request).2.guards.getD service.ref.index Guard.defaults := rfl
        _ = service.guard := by rw [ask, Desk.guards_run]; rfl
        _ = service.guard.configure .nothing := (Guard.configure_nothing _).symm

theorem iterators_step (service : Service) (action : Action) :
    (service.step action).iterators = action.drained service.iterators := by
  cases action <;> rfl

/-- No action changes which algorithms are enabled. -/
theorem registry_step (service : Service) (action : Action) :
    (service.step action).desk.registry = service.desk.registry := by
  cases action with
  | configure given => rfl
  | authenticate request =>
      calc (service.step (.authenticate request)).desk.registry
          = (service.ask request).2.registry := rfl
        _ = service.desk.registry := by rw [ask, Desk.registry_run]

/-! ### All actions -/

theorem guard_run (service : Service) (actions : List Action) :
    (service.run actions).guard =
      service.guard.configure (.latest (Action.optionsOf service.iterators actions)) := by
  induction actions generalizing service with
  | nil => rfl
  | cons action rest ih =>
      calc ((service.step action).run rest).guard
          = (service.guard.configure (action.options service.iterators)).configure
              (.latest (Action.optionsOf (action.drained service.iterators) rest)) := by
            rw [ih, guard_step, iterators_step]
        _ = service.guard.configure ((action.options service.iterators).followedBy
              (.latest (Action.optionsOf (action.drained service.iterators) rest))) :=
            Guard.configure_configure _ _ _
        _ = service.guard.configure
              (.latest (Action.optionsOf service.iterators (action :: rest))) := by
            rw [Action.optionsOf, GuardOptions.latest_cons]

theorem registry_run (service : Service) (actions : List Action) :
    (service.run actions).desk.registry = service.desk.registry := by
  induction actions generalizing service with
  | nil => rfl
  | cons action rest ih => exact (ih (service.step action)).trans (registry_step service action)

theorem guard_start (desk : Desk) (iterators : Iterators) (given : Handover) :
    (start desk iterators given).guard = Guard.new (given.options iterators) :=
  desk.guard_addGuard _

theorem latest_optionsOf_authenticate (iterators : Iterators) (requests : List Http.Request) :
    GuardOptions.latest (Action.optionsOf iterators (requests.map .authenticate)) = .nothing := by
  induction requests with
  | nil => rfl
  | cons request rest ih => exact ih

theorem ask_run_authenticate (service : Service) (requests : List Http.Request)
    (request : Http.Request) :
    ((service.run (requests.map .authenticate)).ask request).1 = (service.ask request).1 := by
  rw [ask_fst, ask_fst, guard_run, registry_run, latest_optionsOf_authenticate,
    Guard.configure_nothing]

/-- After any sequence of configurations and questions, a guard has the last verifiers, the last
claims type and the last extractor that were handed over, each on its own, and answers by them; the
extractor that it was made with counts only if it does not stand for falsehood.  Questions change
neither the guard nor the iterators, so they are answered alike however often they are asked, also
by verifiers from an iterator that is empty since. -/
theorem asked_as_configured (desk : Desk) (iterators : Iterators) :
    (∀ built actions,
      let service := (start desk iterators built).run actions
      let first := built.options iterators
      let later := GuardOptions.latest (Action.optionsOf (built.drained iterators) actions)
      service.guard.verifiers = (later.verifiers.or first.verifiers).getD [] ∧
        service.guard.claimsType =
          (later.claimsType.or first.claimsType).getD (.schema Schema.claims) ∧
        service.guard.extractor =
          (later.extractor.or (first.extractor.filter Extractor.truth)).getD
            (.bearer "Authorization" "Bearer") ∧
        ∀ request,
          (service.ask request).1 = service.guard.authenticate desk.registry request) ∧
    (∀ (service : Service) (request : Http.Request),
      (service.step (.authenticate request)).guard = service.guard ∧
        (service.step (.authenticate request)).iterators = service.iterators) ∧
    (∀ (service : Service) (requests : List Http.Request) (request : Http.Request),
      ((service.run (requests.map .authenticate)).ask request).1 = (service.ask request).1) ∧
    ∀ place claimsType extractor,
      let service := start desk iterators ⟨some (.iterator place), claimsType, extractor⟩
      service.guard.verifiers = iterators place ∧ service.iterators place = [] := by
  refine ⟨?_, ?_, ask_run_authenticate, ?_⟩
  · intro built actions service first later
    have hguard : service.guard = (Guard.new first).configure later := by
      rw [guard_run, guard_start]
      rfl
    rw [hguard, Guard.configure_new]
    refine ⟨rfl, rfl, rfl, fun request => ?_⟩
    rw [ask_fst, hguard, Guard.configure_new, registry_run]
    rfl
  · intro service request
    exact ⟨guard_step service _, iterators_step service _⟩
  · intro place claimsType extractor service
    have hdrained : Function.update iterators place [] place = [] :=
      Function.update_self place [] iterators
    exact ⟨congrArg Guard.verifiers (guard_start desk iterators _), hdrained⟩

/-- An extractor of an application that finds an unsigned token and stands for falsehood. -/
private def emptyExtractor : Extractor := .supplied (.ok (.text "eyJhbGciOiJub25lIn0.e30.")) false

private def lenientVerifier : Keyholder := .scripted ⟨0, .answer true, .answer true⟩

/-- A guard that is made with this extractor looks for a field instead, although the extractor
finds a token that the verifier of the guard accepts. -/
theorem not_asked_with_false_extractor :
    (∃ data, (Guard.authenticate ⟨true, ⟨""⟩⟩
      ⟨[lenientVerifier], .schema Schema.claims, emptyExtractor⟩ ⟨[], "/"⟩).outcome = .ok data) ∧
    ((start (.empty []) (fun _ => [])
      ⟨some (.list [lenientVerifier]), none, some emptyExtractor⟩).ask ⟨[], "/"⟩).1.outcome =
        .error (.refused (.missing "Missing Authorization header")) := by
  constructor
  · have hgranted : (Guard.authenticate ⟨true, ⟨""⟩⟩ ⟨[lenientVerifier], .schema Schema.claims,
        emptyExtractor⟩ ⟨[], "/"⟩).outcome.toOption.any (fun _ => true) = true := by
      decide +kernel
    obtain ⟨data, hdata, -⟩ := exists_ok_of_any hgranted
    exact ⟨data, hdata⟩
  · rfl

end Service

end SignedToken
