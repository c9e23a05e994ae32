import JotaTranscriber.EffectTriples
import JotaTranscriber.HandleTranscribe

-- Triples for the constructs that handle() is written in.
namespace JotaTranscriber.HandlerTriples
open HandleTranscribe Effects

variable {State α β : Type} (permit : State → HttpEffect → Option State)

-- A stretch of the handler, its effects followed from P on.
def Spec (P : State → Prop) (handler : Handler α) (Q : α → State → Prop) (E : Stop → State → Prop) :
    Prop :=
  Triple permit P handler.effects handler.result Q E

variable {permit} {world : HttpWorld} {P : State → Prop} {Q : α → State → Prop} {E : Stop → State → Prop}

theorem spec_pure (value : α) (established : ∀ s, P s → Q value s) : Spec permit P (pure value) Q E :=
  Triple.pure established

theorem spec_bind {first : Handler α} {rest : α → Handler β} {R : β → State → Prop}
    (one : Spec permit P first Q E) (later : ∀ value, Spec permit (Q value) (rest value) R E) :
    Spec permit P (first >>= rest) R E := by
  unfold Spec at one
  simp only [Spec,bind]
  cases passed : first.result with
  | ok value =>
    rw [passed] at one
    exact one.bind (later value)
  | error stop =>
    rw [passed] at one
    exact one.cut

theorem spec_given {H : Prop} {handler : Handler α} (known : H → Spec permit P handler Q E) :
    Spec permit (fun s => P s ∧ H) handler Q E := Triple.given known

theorem spec_perform {Q : Unit → State → Prop}
    (permitted : ∀ s, P s → ∃ next, permit s effect = some next ∧ Q () next) :
    Spec permit P (perform effect) Q E := Triple.single permitted

theorem spec_guarding {body : Handler α} (Q' : α → State → Prop) (E' : Stop → State → Prop)
    (inside : Spec permit P body Q' E')
    (returned : ∀ value s, Q' value s → ∃ next, permit s release = some next ∧ Q value next)
    (failed : ∀ stop s, E' stop s → ∃ next, permit s release = some next ∧ E stop next) :
    Spec permit P (guarding release body) Q E := Triple.finally inside returned failed

theorem spec_catchAll {body : Handler α} {fallback : α} (E' : Stop → State → Prop)
    (inside : Spec permit P body Q E') (thrown : ∀ s, E' .threw s → Q fallback s)
    (returned : ∀ s, E' .returned s → E .returned s) :
    Spec permit P (catchAll body fallback) Q E := by
  unfold Spec catchAll
  unfold Spec at inside
  cases ended : body.result with
  | ok value =>
    rw [ended] at inside
    simp only [ended]
    exact inside
  | error stop =>
    rw [ended] at inside
    cases stop with
    | threw => exact inside.recover thrown
    | returned =>
      simp only [ended]
      intro s before
      obtain ⟨after,ran,reached⟩ := inside s before
      exact ⟨after,ran,returned after reached⟩

-- An answer ends the handler: it returns, or it is thrown out of by send().
theorem spec_answer {response : HttpResponse}
    (permitted : ∀ s, P s → ∃ next, permit s (.send response) = some next ∧
      E (if world.send response then .returned else .threw) next) :
    Spec permit P (answer world response) Q E := Triple.single permitted

-- It is also thrown out of when the text cannot be dumped, with nothing sent.
theorem spec_makeJson {status : HttpStatus} {body : Json} (undumped : ∀ s, P s → E .threw s)
    (permitted : ∀ text, world.dump body = some text → ∀ s, P s →
      ∃ next, permit s (.send ⟨status,bytes "application/json",text⟩) = some next ∧
        E (if world.send ⟨status,bytes "application/json",text⟩ then .returned else .threw) next) :
    Spec permit P (makeJson world status body) Q E := by
  unfold makeJson
  cases dumped : world.dump body with
  | some text => exact spec_answer (permitted text dumped)
  | none => exact Triple.raise undumped

end JotaTranscriber.HandlerTriples
