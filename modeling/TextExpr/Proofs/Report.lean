import TextExpr.Proofs.Failure
import TextExpr.Proofs.Simulation

/-!
# What a caller is told

Of a value a caller is told the text and the span, of an error the classes along its wrappers,
the message, the texts that go with it and the spans. Two values, errors or outcomes are alike
under a relation of spans if they tell the same, but for spans that are related: under equality
nothing tells them apart, and under the relation of any two spans only spans may do so.
-/
namespace TextExpr

variable {S : Span → Span → Prop}

/-- The texts agree, and the spans, if there are any, are related. -/
structure Value.Alike (S : Span → Span → Prop) (v w : Value) : Prop where
  text : v.text = w.text
  span : Option.Rel S v.span w.span

theorem Value.Alike.eq {v w : Value} (alike : v.Alike Eq w) : v = w := by
  obtain ⟨t, s⟩ := v
  obtain ⟨t', s'⟩ := w
  obtain ⟨rfl, span⟩ := alike
  cases span with
  | none => rfl
  | some same => rw [same]

theorem Value.Alike.refl (reflexive : ∀ s, S s s) (v : Value) : v.Alike S v := by
  refine ⟨rfl, ?_⟩
  cases v.span with
  | none => exact .none
  | some s => exact .some (reflexive s)

/-- A value is moved to a span whatever its own span was. -/
theorem Value.alike_withSpan {v w : Value} {s s' : Span} (text : v.text = w.text)
    (spans : S s s') : (v.withSpan s).Alike S (w.withSpan s') :=
  ⟨text, .some spans⟩

namespace EvalError

inductive Class where
  | noVariablesAllowed
  | invalidRegex
  | unresolvedVariable
  | conversion
  | wrongArgCount
  | unknownFunction
  | unknownVariable
  | cannotIndex
  | spanned
  deriving DecidableEq, Repr

/-- The classes of an error and of the errors inside it, the outermost first. -/
def classes : EvalError → List Class
  | noVariablesAllowed _ => [.noVariablesAllowed]
  | invalidRegex _ => [.invalidRegex]
  | unresolvedVariable _ => [.unresolvedVariable]
  | conversion .. => [.conversion]
  | wrongArgCount _ => [.wrongArgCount]
  | unknownFunction _ => [.unknownFunction]
  | unknownVariable _ => [.unknownVariable]
  | cannotIndex _ => [.cannotIndex]
  | spanned _ inner => .spanned :: inner.classes

/-- What the innermost error is about: a name, a reason, or a value with the type it is not of
and the cause, which may be absent. -/
def detail : EvalError → List (Option Text)
  | noVariablesAllowed name => [some name]
  | invalidRegex reason => [some reason]
  | unresolvedVariable name => [some name]
  | conversion value target cause => [some value.text, some target, cause.map Cause.message]
  | wrongArgCount function => [some function]
  | unknownFunction name => [some name]
  | unknownVariable name => [some name]
  | cannotIndex value => [some value]
  | spanned _ inner => inner.detail

/-- The errors tell the same, and their spans are related one by one. -/
structure Alike (S : Span → Span → Prop) (e e' : EvalError) : Prop where
  classes : e.classes = e'.classes
  message : e.message = e'.message
  detail : e.detail = e'.detail
  spans : List.Forall₂ S e.spans e'.spans

theorem Alike.refl (reflexive : ∀ s, S s s) (e : EvalError) : e.Alike S e :=
  ⟨rfl, rfl, rfl, List.forall₂_same.mpr fun s _ => reflexive s⟩

theorem Alike.within {e e' : EvalError} {s s' : Span} (alike : e.Alike S e') (spans : S s s') :
    (e.within s).Alike S (e'.within s') where
  classes := congrArg (Class.spanned :: ·) alike.classes
  message := alike.message
  detail := alike.detail
  spans := .cons spans alike.spans

theorem alike_conversion {v w : Value} (alike : v.Alike S w) (target : Text)
    (cause : Option Cause) :
    (conversion v target cause).Alike S (conversion w target cause) where
  classes := rfl
  message := by simp only [EvalError.message, alike.text]
  detail := by simp only [EvalError.detail, alike.text]
  spans := by
    obtain ⟨t, s⟩ := v
    obtain ⟨t', s'⟩ := w
    cases alike.span with
    | none => exact .nil
    | some related => exact .cons related .nil

end EvalError

namespace Failure

/-- Two errors that are alike, whatever they were reported in answer to, or the same fault. -/
inductive Alike (S : Span → Span → Prop) : Failure → Failure → Prop where
  | error {f g e e'} (raised : f.error? = some e) (raised' : g.error? = some e')
      (alike : e.Alike S e') : Alike S f g
  | fault (fault : Fault) : Alike S (.fault fault) (.fault fault)

theorem Alike.refl (reflexive : ∀ s, S s s) (f : Failure) : f.Alike S f := by
  cases f with
  | error e => exact .error rfl rfl (.refl reflexive e)
  | reported e earlier => exact .error rfl rfl (.refl reflexive e)
  | fault fault => exact .fault fault

theorem Alike.locate {f g : Failure} {s s' : Span} (alike : f.Alike S g) (spans : S s s') :
    (f.locate s).Alike S (g.locate s') := by
  cases alike with
  | error raised raised' alike =>
    have located := congrArg (Option.map (·.within s)) raised
    have located' := congrArg (Option.map (·.within s')) raised'
    rw [← error?_locate] at located located'
    exact .error located located' (alike.within spans)
  | fault fault => exact .fault fault

end Failure

/-- Nothing tells the outcomes apart: the same text with the same span, errors of the same
classes, message, detail and spans, or the same fault. -/
def SameOutcome : Except Failure Value → Except Failure Value → Prop :=
  EndAlike Eq (Failure.Alike Eq)

theorem SameOutcome.refl (x : Except Failure Value) : SameOutcome x x :=
  EndAlike.refl_of (fun _ => rfl) (Failure.Alike.refl fun _ => rfl) x

theorem sameOutcome_iff {x y : Except Failure Value} :
    SameOutcome x y ↔ EndAlike (Value.Alike Eq) (Failure.Alike Eq) x y := by
  constructor
  · intro same
    refine same.imp fun v w _ equal => ?_
    rw [equal]
    exact .refl (fun _ => rfl) w
  · intro alike
    exact alike.imp fun _ _ _ alike => alike.eq

end TextExpr
