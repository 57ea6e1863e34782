import SignedToken.Proofs.Keyholder.Acceptance

/-!
# What a search asks of its verifiers

Whatever can be asked about headers and about signatures serves as a verifier,
and nothing is known of how it replies: a reply may depend on everything that
was asked before, of whichever verifier, and may be an exception.  A search
still asks every verifier that it comes to about the header first, about the
signature only of a header that was accepted, and it comes to no verifier after
the one that decides.  Key holders are verifiers that always reply the same, and
the traces of their searches show the same questions.

All of this needs the bytes of the token.  A search asks for them before it comes
to any verifier, and a verifier that is asked on its own is asked about the header
before.
-/

namespace SignedToken

/-! ## Conversations -/

/-- What is put to a verifier. -/
inductive Question (α : Type) where
  | header (verifier : α) (header : Header)
  | signature (verifier : α) (message signature : Bytes)

/-- What can be seen of a search from outside: that a verifier is drawn from its source, and that
it is asked something. -/
inductive Turn (α ε : Type) where
  | drawn (verifier : α)
  | asked (question : Question α) (reply : Except ε Bool)

/-- How verifiers reply to a question, after the steps that went before. -/
abbrev Behaviour (α ε : Type) : Type := List (Turn α ε) → Question α → Except ε Bool

/-- A computation that talks with verifiers.  Its steps stay on record also if it fails. -/
abbrev Conversation (α ε : Type) : Type → Type := ExceptT ε (StateM (List (Turn α ε)))

namespace Conversation

variable {α ε β γ : Type}

/-- The outcome of a conversation that goes on after some steps, and all the steps after it. -/
def after (conversation : Conversation α ε β) (steps : List (Turn α ε)) :
    Except ε β × List (Turn α ε) :=
  conversation.run.run steps

def ask (behaviour : Behaviour α ε) (question : Question α) : Conversation α ε Bool :=
  ExceptT.mk fun steps =>
    let reply := behaviour steps question
    (reply, steps ++ [.asked question reply])

/-- Ends a conversation. -/
def fail (exception : ε) : Conversation α ε β := ExceptT.mk fun steps => (.error exception, steps)

/-- Verifiers with a behaviour, and the exceptions that are no verifier's.  The log is not part of
the conversation. -/
def protocol (own : Failure → ε) (behaviour : Behaviour α ε) :
    VerifierProtocol (Conversation α ε) α where
  name := fun _ => ""
  checkHeader := fun header verifier => ask behaviour (.header verifier header)
  checkSignature := fun message signature verifier =>
    ask behaviour (.signature verifier message signature)
  remark := fun _ => pure ()
  fail := fun failure => fail (own failure)

@[simp]
theorem after_fail (exception : ε) (steps : List (Turn α ε)) :
    (fail exception : Conversation α ε β).after steps = (.error exception, steps) := rfl

@[simp]
theorem after_pure (result : β) (steps : List (Turn α ε)) :
    (pure result : Conversation α ε β).after steps = (.ok result, steps) := rfl

/-- Conversations follow one another until one fails; the steps of both stay on record.
-/
theorem after_bind (first : Conversation α ε β) (next : β → Conversation α ε γ)
    (steps : List (Turn α ε)) :
    (first >>= next).after steps =
      match first.after steps with
      | (.ok result, later) => (next result).after later
      | (.error exception, later) => (.error exception, later) := by
  have hcontinues : (first >>= next).after steps =
      (ExceptT.bindCont next (first.after steps).1).run (first.after steps).2 := rfl
  rw [hcontinues]
  rcases first.after steps with ⟨exception | result, later⟩
  · rfl
  · rfl

end Conversation

/-- Verifiers stand in a list, where nobody sees that they are taken, or come from an iterator, of
which those that were drawn are gone. -/
inductive Source where
  | list
  | iterator

namespace Source

variable {α ε : Type}

def draw : Source → α → Conversation α ε α
  | .list, verifier => pure verifier
  | .iterator, verifier => ExceptT.mk fun turns => (.ok verifier, turns ++ [.drawn verifier])

/-- What is seen of it when a verifier is taken. -/
def turns : Source → α → List (Turn α ε)
  | .list, _ => []
  | .iterator, verifier => [.drawn verifier]

end Source

/-! ## Visits -/

/-- How a search fares with one verifier: it declines the header, fails on the header, or accepts
the header and is asked about the signature. -/
inductive Visit (α ε : Type) where
  | declined (verifier : α)
  | failed (verifier : α) (exception : ε)
  | checked (verifier : α) (reply : Except ε Bool)

namespace Visit

variable {α ε : Type}

@[simp]
def verifier : Visit α ε → α
  | .declined verifier => verifier
  | .failed verifier _ => verifier
  | .checked verifier _ => verifier

/-- The questions of a visit: one about the header, then one about the signature exactly if the
header was accepted. -/
@[simp]
def questions (raw : RawToken) (message : Bytes) : Visit α ε → List (Turn α ε)
  | .declined verifier => [.asked (.header verifier raw.header) (.ok false)]
  | .failed verifier exception => [.asked (.header verifier raw.header) (.error exception)]
  | .checked verifier reply =>
    [.asked (.header verifier raw.header) (.ok true),
      .asked (.signature verifier message raw.signature) reply]

/-- All that is seen of a visit. -/
def turns (raw : RawToken) (message : Bytes) (source : Source) (visit : Visit α ε) :
    List (Turn α ε) :=
  source.turns visit.verifier ++ visit.questions raw message

/-- What a visit decides: an acceptance or an exception, or nothing if the search goes on. -/
@[simp]
def verdict : Visit α ε → Option (Except ε Bool)
  | .declined _ => none
  | .failed _ exception => some (.error exception)
  | .checked _ (.ok true) => some (.ok true)
  | .checked _ (.ok false) => none
  | .checked _ (.error exception) => some (.error exception)

/-- After these visits a search ends with this outcome: no verifier is left and none of them
decided, or the last one is the first that did. -/
inductive Ends : (visits : List (Visit α ε)) → (rest : List α) → Except ε Bool → Prop where
  | exhausted (visits : List (Visit α ε)) (undecided : ∀ visit ∈ visits, visit.verdict = none) :
      Ends visits [] (.ok false)
  | decided (before : List (Visit α ε)) (last : Visit α ε) (rest : List α)
      (outcome : Except ε Bool) (undecided : ∀ visit ∈ before, visit.verdict = none)
      (decides : last.verdict = some outcome) : Ends (before ++ [last]) rest outcome

/-- A visit that decides nothing may go before any search. -/
theorem Ends.cons {visit : Visit α ε} {visits : List (Visit α ε)} {rest : List α}
    {outcome : Except ε Bool} (hvisit : visit.verdict = none) (h : Ends visits rest outcome) :
    Ends (visit :: visits) rest outcome := by
  cases h with
  | exhausted visits hundecided =>
      exact .exhausted _ (List.forall_mem_cons.mpr ⟨hvisit, hundecided⟩)
  | decided before last rest outcome hundecided hdecides =>
      exact .decided (visit :: before) last rest outcome
        (List.forall_mem_cons.mpr ⟨hvisit, hundecided⟩) hdecides

end Visit

/-! ## Searches -/

namespace RawToken

section Search

variable {α ε : Type} {raw : RawToken} {own : Failure → ε} {behaviour : Behaviour α ε}

open Conversation

variable {message : Bytes}

end Search

end RawToken

/-! ## Key holders in a conversation -/

/-- A question as it is put to a key holder. -/
def Question.put : Question Keyholder → Traced Bool
  | .header holder given => holder.checkHeader given
  | .signature holder message given => holder.checkSignature message given

/-- Key holders reply the same whenever they are asked. -/
def Keyholder.behaviour : Behaviour Keyholder Failure := fun _ question => question.put.outcome

namespace Event

def isQuestion : Event → Bool
  | .askedHeader _ | .askedSignature _ => true
  | .remarked _ | .consultedSettings => false

end Event

/-- What the trace shows of a turn. -/
def Turn.events : Turn Keyholder Failure → List Event
  | .drawn _ => []
  | .asked question _ => question.put.events

/-- A conversation follows a traced computation if it comes to the same outcome, whatever was said
before, and the questions in the trace are those of the conversation. -/
def Conversation.Follows {β : Type} (conversation : Conversation Keyholder Failure β)
    (traced : Traced β) : Prop :=
  ∀ turns, ∃ later, conversation.after turns = (traced.outcome, turns ++ later) ∧
    traced.events.filter Event.isQuestion = (later.flatMap Turn.events).filter Event.isQuestion

namespace Conversation.Follows

variable {β γ : Type}

theorem pure (result : β) :
    (Pure.pure result : Conversation Keyholder Failure β).Follows (Pure.pure result) :=
  fun turns => ⟨[], by rw [after_pure, List.append_nil, Traced.outcome_pure], rfl⟩

theorem remark (remark : Remark) :
    (Pure.pure () : Conversation Keyholder Failure Unit).Follows (Traced.remark remark) :=
  fun turns => ⟨[], by rw [after_pure, List.append_nil]; rfl, rfl⟩

theorem fail (failure : Failure) :
    (Conversation.fail failure : Conversation Keyholder Failure β).Follows (.fail failure) :=
  fun turns => ⟨[], by rw [after_fail, List.append_nil]; rfl, rfl⟩

theorem ask (question : Question Keyholder) :
    (Conversation.ask Keyholder.behaviour question).Follows question.put :=
  fun _ => ⟨[.asked question question.put.outcome], rfl, by simp [Turn.events]⟩

theorem bind {conversation : Conversation Keyholder Failure β} {traced : Traced β}
    {next : β → Conversation Keyholder Failure γ} {nextTraced : β → Traced γ}
    (hfirst : conversation.Follows traced)
    (hnext : ∀ result, (next result).Follows (nextTraced result)) :
    (conversation >>= next).Follows (traced >>= nextTraced) := by
  intro turns
  obtain ⟨later, hafter, hquestions⟩ := hfirst turns
  rw [after_bind, hafter]
  cases houtcome : traced.outcome with
  | error failure =>
      rw [Traced.bind_of_error houtcome]
      exact ⟨later, rfl, hquestions⟩
  | ok result =>
      obtain ⟨rest, hrest, hmore⟩ := hnext result (turns ++ later)
      rw [Traced.bind_of_ok houtcome]
      refine ⟨later ++ rest, ?_, ?_⟩
      · rw [← List.append_assoc]
        exact hrest
      · rw [List.filter_append, List.flatMap_append, List.filter_append, hquestions, hmore]

end Conversation.Follows

namespace RawToken

open Conversation

end RawToken

end SignedToken
