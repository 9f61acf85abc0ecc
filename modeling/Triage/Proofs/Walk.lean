import Triage.Proofs.Run

/-!
# What all steps of a reading have in common

A reading is put together of few steps that look at a session: having the policies and the client,
calling the backend, and noting what has happened. So what holds at every step is shown for these
alone, together with that running one step after another keeps it.

What the steps of an attempt have (`Run.IsClosed`), all attempts have. If having the policies and the
catalogue has it as well (`Run.IsWhollyClosed`), every consultation of the models does, and every
reading whose denylist does (`Run.IsWhollyClosed.ofText`).
-/

namespace Triage

namespace Run

/-- A property that the steps of an attempt have, and that is kept by going on. -/
structure IsClosed (backend : Backend) (P : {α : Type} → Run α → Prop) : Prop where
  pure : ∀ {α : Type} (a : α), P (Pure.pure a : Run α)
  bind : ∀ {α β : Type} {x : Run α} {f : α → Run β}, P x → (∀ a, P (f a)) → P (x >>= f)
  note : ∀ event, P (note event)
  client : P client
  chat : ∀ (c : Client) (model : String) (messages : Json),
    P (call (c.chat backend model messages none))

/-- One that the other steps of a consultation have, too. -/
structure IsWhollyClosed (backend : Backend) (P : {α : Type} → Run α → Prop) : Prop
    extends IsClosed backend P where
  load : P Store.load
  listModels : ∀ c : Client, P (call (c.listModels backend))
  breakdown : ∀ b : Breakdown, P (throw (.breakdown b) : Run Unit)

variable {backend : Backend} {P : {α : Type} → Run α → Prop}

namespace IsClosed

variable (h : IsClosed backend P)

include h

theorem attempt (messages : Json) (model : String) :
    P (Cascade.attempt backend messages model) := by
  refine h.bind h.client fun c => h.bind (h.chat c model messages) fun reply => ?_
  have hnote (ending : AttemptEnd) : P (do
      Run.note (.attempt model ending.word .zero)
      return (⟨model, ending⟩ : Attempt)) :=
    h.bind (h.note _) fun _ => h.pure _
  cases reply with
  | ok content => exact hnote _
  | error e => exact hnote _

theorem attempts (messages : Json) (models : List String) :
    P (Cascade.attempts (Cascade.attempt backend messages) models) := by
  induction models with
  | nil => exact h.pure []
  | cons model rest ih =>
      refine h.bind (h.attempt messages model) fun a => ?_
      split
      · exact h.pure _
      · exact h.bind ih fun _ => h.pure _

end IsClosed

namespace IsWhollyClosed

variable (h : IsWhollyClosed backend P)

include h

theorem find? (alertType : Option String) : P (Store.find? alertType) := by
  rw [Store.find?]
  cases alertType.filter (· ≠ "") with
  | none => exact h.pure none
  | some t => exact h.bind h.load fun _ => h.pure _

theorem goOn (c : Client) (messages : Json) (made : List Attempt) (next : Option ModelName) :
    P (Cascade.goOn c messages made next) := by
  cases next with
  | none => exact h.pure ()
  | some model =>
      rw [Cascade.goOn]
      split
      · exact h.pure ()
      · exact h.breakdown _

theorem verdict (made : List Attempt) : P (Cascade.verdict made) := by
  rw [Cascade.verdict]
  rcases made.getLast? with _ | ⟨model, alert | ⟨reason, category⟩ | _⟩
  · exact h.pure _
  · exact h.bind (h.find? _) fun _ => h.pure _
  · exact h.pure _
  · exact h.pure _

theorem consult (text : String) : P (Cascade.consult backend text) := by
  refine h.bind h.client fun c => h.bind (h.listModels c) fun listed => ?_
  rcases listed with e | _ | ⟨first, rest⟩
  · exact h.pure _
  · exact h.pure _
  · refine h.bind h.load fun policies => h.bind (h.attempts _ _) fun made => ?_
    exact h.bind (h.goOn c _ made _) fun _ => h.bind (h.verdict made) fun _ => h.pure _

/-- **Every reading has the property**, if its denylist has and what is computed without a session
does. -/
theorem ofText {given : Option (List String)} (hd : P (Reading.denylist given))
    (hlift : ∀ {α : Type} (x : Except Failure α), P (liftM x : Run α)) (text : String) :
    P (Reading.ofText backend given text) := by
  refine h.bind hd fun denied => h.bind h.load fun policies => ?_
  refine h.bind (hlift _) fun recognised => ?_
  cases Reading.byPolicy denied recognised with
  | settled reading event => exact h.bind (h.note event) fun _ => h.pure _
  | «open» policy reason =>
      refine h.bind (h.consult text) fun made => h.bind (hlift _) fun concluded => ?_
      exact h.bind (h.note _) fun _ => h.pure _

end IsWhollyClosed

/-! ## What a consultation leaves alone -/

section Keeps

variable {γ : Type} {view : Session → γ} (hconfig : IgnoresConfig view)
  (hclient : ∀ (s : Session) (c : Client), view { s with client := some c } = view s)
  (hrequests : ∀ (s : Session) (requests : List Request), view { s with requests } = view s)
  (hjournal : ∀ (s : Session) (journal : Journal), view { s with journal } = view s)

include hconfig hclient hrequests hjournal

/-- Attempts leave alone what does not depend on the configuration, the client, the requests and the
journal. -/
theorem isClosed_keeps (backend : Backend) : IsClosed backend (Keeps view) where
  pure := keeps_pure
  bind := keeps_bind
  note := fun _ => keeps_modify fun s => hjournal s _
  client := keeps_client hconfig hclient
  chat := fun _ _ _ => keeps_call hrequests _

/-- A reading does that, too, with what does not depend on the policies either. -/
theorem isWhollyClosed_keeps
    (hstore : ∀ (s : Session) (store : Store), view { s with store } = view s)
    (backend : Backend) : IsWhollyClosed backend (Keeps view) where
  toIsClosed := isClosed_keeps hconfig hclient hrequests hjournal backend
  load := Store.keeps_load hconfig hstore
  listModels := fun _ => keeps_call hrequests _
  breakdown := fun _ => keeps_throw _

end Keeps

end Run

end Triage
