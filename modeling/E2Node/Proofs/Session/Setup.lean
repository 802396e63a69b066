import E2Node.Proofs.Session.Requests

namespace E2Node.StreamSession

inductive SetupStage
  | idle
  | registered
  | checked
  | awaiting
  | expired

inductive SetupEvent
  | around (e : Event)
  | registered
  | checked
  | written
  | unsent (e : SessionError)
  | expired
  | returned (r : Except SessionError SetupOutcome)

namespace SetupEvent

def isOwn : SetupEvent → Bool
  | .around _ => false
  | _ => true

/-- What an event means for the call whose waiter is in place. -/
def verdict? : SetupEvent → Option (Except SessionError SetupOutcome)
  | .around (.took p) => p.outcome?.map .ok
  | .around .left => some (.error .closed)
  | .expired => some (.error .setupTimeout)
  | _ => none

def processed? : SetupEvent → Option SetupOutcome
  | .around (.took p) => p.outcome?
  | _ => none

def completed? : SetupEvent → Option SetupOutcome
  | .returned (.ok o) => some o
  | _ => none

def since : List SetupEvent → SetupEvent → List SetupEvent
  | _, .registered => []
  | es, e => es ++ [e]

end SetupEvent

def latest (es : List SetupEvent) : List SetupEvent := es.foldl SetupEvent.since []

def steps (es : List SetupEvent) : List SetupEvent := es.filter SetupEvent.isOwn

/-- The first outcome, the end of the reader or the end of the time, whichever comes first. -/
def fate? (es : List SetupEvent) : Option (Except SessionError SetupOutcome) :=
  es.findSome? SetupEvent.verdict?

variable {σ : Type}

inductive SetupStep :
    SetupStage → StreamSession σ → SetupEvent → SetupStage → StreamSession σ → Prop
  | around {g s e s'} (hh : Happens s e s') (he : e ≠ .other) : SetupStep g s (.around e) g s'
  | works {g s} (x : σ) : SetupStep g s (.around .other) g { s with handlerState := x }
  | registers {s} : SetupStep .idle s .registered .registered s.registerSetup
  | checks {s} (hc : s.closed = false) : SetupStep .registered s .checked .checked s
  | refused {s} (hc : s.closed = true) :
      SetupStep .registered s (.unsent .closed) .awaiting { s with setup := .unsent .closed }
  | writes {s r s'} (hw : s.write (.setupRequest r) = .ok s') :
      SetupStep .checked s .written .awaiting s'
  | fails {s} (e : SessionError) :
      SetupStep .checked s (.unsent e) .awaiting { s with setup := .unsent e }
  | returns {s r} (hr : s.setupResult? = some r) : SetupStep .awaiting s (.returned r) .idle s
  | expires {s} (hr : s.setupResult? = none) : SetupStep .awaiting s .expired .expired s
  | givesUp {s} : SetupStep .expired s (.returned (.error .setupTimeout)) .idle s.timeOut

/-- A course of events from the beginning of a session, with all calls that set it up. -/
inductive Setups (x : σ) : List SetupEvent → SetupStage → StreamSession σ → Prop
  | start : Setups x [] .idle (start x)
  | next {es g s e g' s'} (h : Setups x es g s) (hs : SetupStep g s e g' s') :
      Setups x (es ++ [e]) g' s'

variable {x : σ} {s s' : StreamSession σ} {g g' : SetupStage} {es fs : List SetupEvent}
  {e : SetupEvent} {p : Pdu}

theorem latest_append (es : List SetupEvent) (e : SetupEvent) :
    latest (es ++ [e]) = SetupEvent.since (latest es) e := List.foldl_concat ..

theorem Setups.sendSetup (h : Setups x es .registered s) (r : SetupRequest) :
    ∃ fs, Setups x (es ++ fs) .awaiting (s.sendSetup r) := by
  rw [StreamSession.sendSetup, send]
  by_cases hc : s.closed = true
  · rw [if_pos hc]
    exact ⟨_, h.next (.refused hc)⟩
  · rw [if_neg hc]
    have h' := h.next (.checks (Bool.not_eq_true _ ▸ hc))
    cases hw : s.write (.setupRequest r) with
    | ok s' => exact ⟨[.checked, .written], List.append_cons .. ▸ h'.next (.writes hw)⟩
    | error e => exact ⟨[.checked, .unsent e], List.append_cons .. ▸ h'.next (.fails e)⟩

theorem Setups.endSetup (h : Setups x es .awaiting s) :
    ∃ fs, Setups x (es ++ fs ++ [.returned s.endSetup.1]) .idle s.endSetup.2 := by
  rw [StreamSession.endSetup]
  cases hr : s.setupResult? with
  | some r => exact ⟨[], by rw [List.append_nil]; exact h.next (.returns hr)⟩
  | none => exact ⟨[.expired], (h.next (.expires hr)).next .givesUp⟩

def Event.settles : Event → SetupWait → SetupWait
  | .took p, .waiting =>
      match p.outcome? with
      | some o => .answered o
      | none => .waiting
  | .left, .waiting => .dropped
  | _, w => w

theorem Happens.setup {e : Event} (hh : Happens s e s') (he : e ≠ .other) :
    s'.setup = e.settles s.setup := by
  cases hh with
  | @takes p rest =>
      rw [route_eq]
      cases ho : p.outcome? <;> cases hs : s.setup <;> simp [Event.settles, ho]
  | leaves =>
      rw [dropSetup_eq]
      cases hs : s.setup <;> simp [Event.settles]
  | answers h hn =>
      rw [answer_eq hn]
      rfl
  | checks hn =>
      rw [check_eq hn]
      rfl
  | replies hn =>
      rw [reply_eq hn]
      rfl
  | sends hp hw =>
      obtain ⟨-, -, -, rfl⟩ := send_eq_ok_iff.1 hw
      rfl
  | registers | gives | timesOut | works => exact absurd rfl he
  | _ => rfl

def slot : Option (Except SessionError SetupOutcome) → SetupWait
  | none => .waiting
  | some (.ok o) => .answered o
  | some (.error _) => .dropped

theorem fate?_append (fs : List SetupEvent) (e : SetupEvent) :
    fate? (fs ++ [e]) = (fate? fs).or e.verdict? := by
  rw [fate?, List.findSome?_append, List.findSome?_singleton]
  rfl

theorem slot_around (fs : List SetupEvent) (e : Event) :
    slot (fate? (fs ++ [.around e])) = e.settles (slot (fate? fs)) := by
  rw [fate?_append]
  cases fate? fs with
  | some r => cases r <;> cases e <;> rfl
  | none =>
      cases e with
      | took p => cases ho : p.outcome? <;> simp [SetupEvent.verdict?, Event.settles, slot, ho]
      | _ => rfl

theorem Event.settles_of_ne {e : Event} {w : SetupWait} (h : w ≠ .waiting) : e.settles w = w := by
  cases w with
  | waiting => exact absurd rfl h
  | _ => cases e <;> rfl

theorem Happens.left {e : Event} (hh : Happens s e s') (hr : s'.reader = .gone) :
    s.reader = .gone ∨ e = .left := by
  cases hh with
  | takes =>
      rw [route_eq] at hr
      exact .inl hr
  | fails | finishes | notices => cases hr
  | leaves => exact .inr rfl
  | answers h hn =>
      rw [answer_eq hn] at hr
      exact .inl hr
  | checks hn =>
      rw [check_eq hn] at hr
      exact .inl hr
  | replies hn =>
      rw [reply_eq hn] at hr
      exact .inl hr
  | sends hp hw =>
      obtain ⟨-, -, -, rfl⟩ := send_eq_ok_iff.1 hw
      exact .inl hr
  | _ => exact .inl hr

theorem fate?_eq_error {er : SessionError} (h : fate? es = some (.error er)) :
    er = .closed ∨ .expired ∈ steps es := by
  obtain ⟨e, he, hv⟩ := List.exists_of_findSome?_eq_some h
  cases e with
  | around e =>
      cases e with
      | took p => cases ho : p.outcome? <;> simp [SetupEvent.verdict?, ho] at hv
      | left =>
          cases hv
          exact .inl rfl
      | _ => cases hv
  | expired => exact .inr (List.mem_filter.2 ⟨he, rfl⟩)
  | _ => cases hv

theorem steps_around (fs : List SetupEvent) (e : Event) :
    steps (fs ++ [.around e]) = steps fs := by
  rw [steps, List.filter_append]
  exact List.append_nil _

theorem steps_own {own : List SetupEvent} (h : steps fs = own) (he : e.isOwn = true) :
    steps (fs ++ [e]) = own ++ [e] := by
  rw [steps, List.filter_append, List.filter_cons_of_pos he, ← steps, h]
  rfl

/-- A waiter to which nothing has come, or what has come to it since; the reader does not leave one
behind. -/
def Waits (fs : List SetupEvent) (s : StreamSession σ) : Prop :=
  s.setup = slot (fate? fs) ∧ (fate? fs = none → s.reader ≠ .gone)

def Place (fs : List SetupEvent) (s : StreamSession σ) : SetupStage → Prop
  | .idle => s.setup ≠ .waiting
  | .registered => steps fs = [] ∧ s.setup = slot (fate? fs)
  | .checked => steps fs = [.checked] ∧ Waits fs s
  | .awaiting => steps fs = [.checked, .written] ∧ Waits fs s ∨ ∃ e, s.setup = .unsent e ∧
      (steps fs = [.checked, .unsent e] ∨ steps fs = [.unsent e] ∧ e = .closed)
  | .expired => steps fs = [.checked, .written, .expired] ∧
      fate? fs = some (.error .setupTimeout)

theorem Place.around {e : Event} (h : Place fs s g) (hs : s'.setup = e.settles s.setup)
    (hl : s'.reader = .gone → s.reader = .gone ∨ e = .left) :
    Place (fs ++ [.around e]) s' g := by
  have hslot (hf : s.setup = slot (fate? fs)) : s'.setup = slot (fate? (fs ++ [.around e])) := by
    rw [hs, hf, slot_around]
  have waits (hw : Waits fs s) : Waits (fs ++ [.around e]) s' := by
    refine ⟨hslot hw.1, fun hf hr => ?_⟩
    rw [fate?_append, Option.or_eq_none_iff] at hf
    rcases hl hr with hg | rfl
    · exact hw.2 hf.1 hg
    · cases hf.2
  cases g with
  | idle =>
      intro hw
      rw [hs, Event.settles_of_ne h] at hw
      exact h hw
  | registered => exact ⟨(steps_around ..).trans h.1, hslot h.2⟩
  | checked => exact ⟨(steps_around ..).trans h.1, waits h.2⟩
  | awaiting =>
      rcases h with ⟨h, hw⟩ | ⟨er, hu, h⟩
      · exact .inl ⟨(steps_around ..).trans h, waits hw⟩
      · refine .inr ⟨er, ?_, by rwa [steps_around]⟩
        rw [hs, hu]
        exact Event.settles_of_ne nofun
  | expired => exact ⟨(steps_around ..).trans h.1, by rw [fate?_append, h.2]; rfl⟩

structure Placed (es : List SetupEvent) (g : SetupStage) (s : StreamSession σ) : Prop where
  left : s.reader ≠ .reading → s.closed = true
  place : Place (latest es) s g

theorem SetupStep.left (h : SetupStep g s e g' s') (hl : s.reader ≠ .reading → s.closed = true)
    (hr : s'.reader ≠ .reading) : s'.closed = true := by
  cases h with
  | around hh =>
      rcases hh.change.reader hr with hr | hc
      · exact hh.change.closed.2 (.inl (hl hr))
      · exact hc
  | writes hw =>
      obtain ⟨-, -, rfl⟩ := write_eq_ok_iff.1 hw
      exact hl hr
  | _ => exact hl hr

theorem Waits.own (h : Waits fs s) (he : e.verdict? = none) : Waits (fs ++ [e]) s := by
  rwa [Waits, fate?_append, he, Option.or_none]

theorem Waits.setupResult? (h : Waits fs s) (he : steps fs = [.checked, .written]) :
    s.setupResult? = fate? fs := by
  rw [StreamSession.setupResult?, h.1]
  cases hf : fate? fs with
  | none => rfl
  | some r =>
      cases r with
      | ok o => rfl
      | error er =>
          rcases fate?_eq_error hf with rfl | hm
          · rfl
          · simp [he] at hm

theorem setupResult?_unsent {er : SessionError} (h : s.setup = .unsent er) :
    s.setupResult? = some (.error er) := by
  rw [StreamSession.setupResult?, h]

theorem Placed.step (h : Placed es g s) (hs : SetupStep g s e g' s') :
    Placed (es ++ [e]) g' s' := by
  obtain ⟨hl, hp⟩ := h
  refine ⟨hs.left hl, ?_⟩
  rw [latest_append]
  cases hs with
  | around hh he => exact hp.around (hh.setup he) hh.left
  | works y => exact hp.around rfl .inl
  | registers => exact ⟨rfl, rfl⟩
  | checks hc =>
      refine ⟨steps_own hp.1 rfl, Waits.own ⟨hp.2, fun _ hr => ?_⟩ rfl⟩
      rw [hl (by rw [hr]; exact nofun)] at hc
      cases hc
  | refused hc => exact .inr ⟨_, rfl, .inr ⟨steps_own hp.1 rfl, rfl⟩⟩
  | writes hw =>
      obtain ⟨-, -, rfl⟩ := write_eq_ok_iff.1 hw
      exact .inl ⟨steps_own hp.1 rfl, Waits.own hp.2 rfl⟩
  | fails er => exact .inr ⟨er, rfl, .inl (steps_own hp.1 rfl)⟩
  | returns hr =>
      intro hw
      rw [setupResult?, hw] at hr
      cases hr
  | expires hr =>
      rcases hp with ⟨hp, hw⟩ | ⟨er, hu, -⟩
      · rw [hw.setupResult? hp] at hr
        exact ⟨steps_own hp rfl, by rw [SetupEvent.since, fate?_append, hr]; rfl; exact nofun⟩
      · rw [setupResult?_unsent hu] at hr
        cases hr
  | givesUp => exact nofun

theorem Setups.placed (h : Setups x es g s) : Placed es g s := by
  induction h with
  | start => exact ⟨fun hr => absurd rfl hr, nofun⟩
  | next _ hs ih => exact ih.step hs

theorem readAll_keeps {P : StreamSession σ → Prop}
    (hP : ∀ s s', P s → s.readStep? = some s' → P s') (h : P s) (n : Nat) : P (s.readAll n) := by
  induction n generalizing s with
  | zero => exact h
  | succ n ih =>
      rw [readAll]
      cases hr : s.readStep? with
      | none => exact h
      | some s' => exact ih (hP s s' h hr)

theorem Setups.readAll (h : Setups x es g s) (n : Nat) :
    ∃ fs, Setups x fs g (s.readAll n) := by
  refine readAll_keeps (P := fun s => ∃ fs, Setups x fs g s) ?_ ⟨es, h⟩ n
  rintro s s' ⟨fs, h⟩ hr
  obtain ⟨⟨e, he, hh⟩, -⟩ := happens_of_readStep? hr
  exact ⟨_, h.next (.around hh he)⟩

def Over (s : StreamSession σ) : Prop := s.closed = true ∨ s.consumed = true ∨ s.ended = true

theorem ended_of_readStep? (h : s.readStep? = some s') : s'.ended = s.ended := by
  rw [readStep?] at h
  split at h
  · cases h
  · cases h
    rw [dropSetup_eq]
  · split at h
    · cases h
      rfl
    · split at h
      · cases h
        rw [route_eq]
      · cases h
        rfl
      · split at h
        · cases h
          rfl
        · cases h

theorem Over.readStep (h : s.Over) (hr : s.readStep? = some s') : s'.Over := by
  obtain ⟨⟨e, -, hh⟩, -⟩ := happens_of_readStep? hr
  rcases h with h | h | h
  · exact .inl (hh.change.closed.2 (.inl h))
  · exact .inr (.inl (hh.change.consumed h))
  · exact .inr (.inr ((ended_of_readStep? hr).trans h))

theorem Placed.not_over (h : Placed es .awaiting s) (hn : s.setupResult? = none)
    (hr : s.readStep? = none) : ¬ s.Over := by
  rcases h.place with ⟨hp, hw⟩ | ⟨er, hu, -⟩
  · rw [hw.setupResult? hp] at hn
    rcases readStep?_eq_none_iff.1 hr with hg | ⟨-, hc, hu, he⟩
    · exact absurd hg (hw.2 hn)
    · rw [Over, consumed, hc, hu, he]
      simp
  · rw [setupResult?_unsent hu] at hn
    cases hn

theorem Setups.readAll_decides (h : Setups x es .awaiting s) (ho : s.Over) {n : Nat}
    (hn : s.remaining ≤ n) : (s.readAll n).setupResult?.isSome = true := by
  obtain ⟨fs, hf⟩ := h.readAll n
  have ho' := readAll_keeps (fun _ _ => Over.readStep) ho n
  by_contra hr
  exact hf.placed.not_over (Option.not_isSome_iff_eq_none.1 hr) (readAll_rests hn) ho'

def processed (es : List SetupEvent) : List SetupOutcome := es.filterMap SetupEvent.processed?

def completed (es : List SetupEvent) : List SetupOutcome := es.filterMap SetupEvent.completed?

def got : SetupWait → List SetupOutcome
  | .answered o => [o]
  | _ => []

def held (s : StreamSession σ) : SetupStage → List SetupOutcome
  | .idle => []
  | .registered | .checked | .awaiting | .expired => got s.setup

theorem got_settles (e : Event) (w : SetupWait) :
    (got (e.settles w)).Sublist (got w ++ (SetupEvent.around e).processed?.toList) := by
  by_cases hw : w = .waiting
  · subst hw
    cases e with
    | took p => cases ho : p.outcome? <;> simp [Event.settles, SetupEvent.processed?, got, ho]
    | _ => exact .refl _
  · rw [Event.settles_of_ne hw]
    exact List.sublist_append_left ..

theorem held_around {e : Event} (hs : s'.setup = e.settles s.setup) (g : SetupStage) :
    (s'.held g).Sublist (s.held g ++ (SetupEvent.around e).processed?.toList) := by
  cases g with
  | idle => exact List.nil_sublist _
  | registered | checked | awaiting | expired =>
      show (got s'.setup).Sublist _
      rw [hs]
      exact got_settles e s.setup

theorem SetupStep.held (h : SetupStep g s e g' s') :
    (e.completed?.toList ++ s'.held g').Sublist (s.held g ++ e.processed?.toList) := by
  cases h with
  | around hh he => exact held_around (hh.setup he) g
  | works y => exact held_around (e := .other) rfl g
  | writes hw =>
      obtain ⟨-, -, rfl⟩ := write_eq_ok_iff.1 hw
      exact List.sublist_append_left ..
  | @returns _ r hr =>
      cases r with
      | error er => exact List.nil_sublist _
      | ok o =>
          have hs : s.held .awaiting = [o] := by
            rw [setupResult?] at hr
            rw [StreamSession.held]
            split at hr <;> simp_all [got]
          rw [hs]
          exact .refl _
  | checks | expires => exact List.sublist_append_left ..
  | registers | refused | fails | givesUp => exact List.nil_sublist _

theorem Setups.completed (h : Setups x es g s) :
    (completed es ++ s.held g).Sublist (processed es) := by
  induction h with
  | start => exact .refl _
  | @next es g s e g' s' _ hs ih =>
      have hc : StreamSession.completed (es ++ [e]) =
          StreamSession.completed es ++ e.completed?.toList := by
        rw [StreamSession.completed, List.filterMap_append]
        cases he : e.completed? <;> simp [StreamSession.completed, he]
      have hp : processed (es ++ [e]) = processed es ++ e.processed?.toList := by
        rw [processed, List.filterMap_append]
        cases he : e.processed? <;> simp [processed, he]
      rw [hc, hp, List.append_assoc]
      refine (hs.held.append_left _).trans ?_
      rw [← List.append_assoc]
      exact ih.append_right _

theorem SetupStep.closed (h : SetupStep g s e g' s') (hc : s.closed = true) : s'.closed = true := by
  cases h with
  | around hh => exact hh.change.closed.2 (.inl hc)
  | writes hw =>
      obtain ⟨-, -, rfl⟩ := write_eq_ok_iff.1 hw
      exact hc
  | _ => exact hc

theorem SetupStep.closes {ev : Event} (h : SetupStep g s (.around ev) g' s') (hc : ev.Closes) :
    s'.closed = true := by
  cases h with
  | around hh => exact hh.change.closed.2 (.inr hc)
  | works => exact hc.elim

theorem Setups.closed (h : Setups x es g s) {ev : Event} (hm : .around ev ∈ es) (hc : ev.Closes) :
    s.closed = true := by
  induction h with
  | start => cases hm
  | next _ hs ih =>
      rcases List.mem_append.1 hm with hm | hm
      · exact hs.closed (ih hm)
      · cases List.mem_singleton.1 hm
        exact hs.closes hc

theorem Setups.checked_open (h : Setups x es g s) :
    es.Pairwise fun a b => ∀ ev, a = .around ev → ev.Closes → b ≠ .checked := by
  induction h with
  | start => exact .nil
  | next h hs ih =>
      refine List.pairwise_append.2 ⟨ih, List.pairwise_singleton .., ?_⟩
      rintro _ hm b hb ev rfl hc rfl
      cases List.mem_singleton.1 hb
      cases hs with
      | checks ho =>
          rw [h.closed hm hc] at ho
          cases ho

theorem SetupStep.outcome {o : SetupOutcome} (h : SetupStep g s (.around (.took p)) g' s')
    (ho : p.outcome? = some o) : g' = g ∧ s'.closed = s.closed ∧ s'.reader = s.reader ∧
      (s.setup ≠ .waiting → ∃ rest, s' = { s with unread := rest }) := by
  cases h with
  | around hh he =>
      obtain ⟨rest, rfl⟩ := hh.took
      rw [route_eq, ho]
      refine ⟨rfl, rfl, rfl, fun hw => ⟨rest, ?_⟩⟩
      cases hs : s.setup <;> simp_all [isRequest_of_outcome? ho]

/-- What a call returns, and when. -/
theorem setup_decided (h : Setups x es g s) :
    (∀ r g' s', SetupStep g s (.returned r) g' s' →
      steps (latest es) = [.unsent .closed] ∧ r = .error .closed ∨
      (∃ e, steps (latest es) = [.checked, .unsent e] ∧ r = .error e) ∨
      (steps (latest es) = [.checked, .written] ∨
        steps (latest es) = [.checked, .written, .expired]) ∧ fate? (latest es) = some r) ∧
    (g = .awaiting →
      (steps (latest es) = [.checked, .written] ∧ s.setupResult? = fate? (latest es) ∨
        ∃ e, .unsent e ∈ latest es ∧ s.setupResult? = some (.error e)) ∧
      (s.setupResult? = none → s.readStep? = none → ¬ s.Over) ∧
      (s.Over → ∀ n, s.remaining ≤ n → (s.readAll n).setupResult?.isSome = true) ∧
      ∃ fs, Setups x (es ++ fs ++ [.returned s.endSetup.1]) .idle s.endSetup.2) ∧
    (g = .registered → ∀ r, ∃ fs, Setups x (es ++ fs) .awaiting (s.sendSetup r)) ∧
    (es.Pairwise fun a b => ∀ e, a = .around e → e.Closes → b ≠ .checked) ∧
    (completed es).Sublist (processed es) ∧
    ∀ p o g' s', p.outcome? = some o → SetupStep g s (.around (.took p)) g' s' →
      g' = g ∧ s'.closed = s.closed ∧ s'.reader = s.reader ∧
        (g = .idle → ∃ rest, s' = { s with unread := rest }) := by
  have hp := h.placed.place
  refine ⟨fun r g' s' hs => ?_, ?_, ?_, h.checked_open,
    (List.sublist_append_left _ _).trans h.completed, fun p o g' s' ho hs => ?_⟩
  · cases hs with
    | returns hr =>
        rcases hp with ⟨hp, hw⟩ | ⟨e, hu, hp | ⟨hp, rfl⟩⟩
        · rw [hw.setupResult? hp] at hr
          exact .inr (.inr ⟨.inl hp, hr⟩)
        · cases (setupResult?_unsent hu).symm.trans hr
          exact .inr (.inl ⟨e, hp, rfl⟩)
        · cases (setupResult?_unsent hu).symm.trans hr
          exact .inl ⟨hp, rfl⟩
    | givesUp => exact .inr (.inr ⟨.inr hp.1, hp.2⟩)
  · rintro rfl
    refine ⟨?_, h.placed.not_over, fun ho n => h.readAll_decides ho, h.endSetup⟩
    rcases hp with ⟨hp, hw⟩ | ⟨e, hu, hp⟩
    · exact .inl ⟨hp, hw.setupResult? hp⟩
    · refine .inr ⟨e, ?_, setupResult?_unsent hu⟩
      have hm : .unsent e ∈ steps (latest es) := by
        rcases hp with hp | ⟨hp, -⟩ <;> simp [hp]
      exact List.mem_of_mem_filter hm
  · rintro rfl
    exact h.sendSetup
  · obtain ⟨hg, hc, hr, hi⟩ := hs.outcome ho
    refine ⟨hg, hc, hr, ?_⟩
    rintro rfl
    exact hi hp

/-- The answer to the first call comes late and is discarded; the second call gets its own. -/
theorem late_answer_discarded :
    let answer : SetupResponse := ⟨[], []⟩
    let p : Pdu := .setupResponse answer
    let call : List SetupEvent := [.registered, .checked, .written]
    let reply : List SetupEvent := [.around (.arrived (Frame.written p)), .around (.took p)]
    let es := call ++ [.expired, .returned (.error .setupTimeout)] ++ reply ++ call ++ reply
    ∃ s s' : StreamSession Unit, Setups () es .awaiting s ∧
      SetupStep .awaiting s (.returned (.ok (.success answer))) .idle s' ∧ s.closed = false ∧
      fate? (latest es) = some (.ok (.success answer)) := by
  intro answer p call reply es
  let r : SetupRequest := ⟨⟨1⟩, ⟨0, 0, 0⟩, []⟩
  have hp : Frame.scan (Frame.written p) = .frame (.ok p) [] := by
    rw [← List.append_nil (Frame.written p)]
    exact Frame.scan_frame (Frame.ofPdu_written (by decide)) []
  have hr : Frame.ofPdu (.setupRequest r) = .ok (Frame.written (.setupRequest r)) :=
    Frame.ofPdu_written (by decide)
  have h₁ := (Setups.start (x := ())).next .registers
  have h₂ := (h₁.next (.checks rfl)).next (.writes (r := r) (by rw [write, hr]; rfl))
  have h₃ := (h₂.next (.expires rfl)).next .givesUp
  have h₄ := (h₃.next (.around (.arrives (Frame.written p) rfl) (by simp))).next
    (.around (.takes rfl hp) (by simp))
  have h₅ := ((h₄.next .registers).next (.checks rfl)).next
    (.writes (r := r) (by rw [write, hr]; rfl))
  have h₆ := (h₅.next (.around (.arrives (Frame.written p) rfl) (by simp))).next
    (.around (.takes rfl hp) (by simp))
  have hs : ∃ s : StreamSession Unit, Setups () es .awaiting s ∧
      s.setupResult? = some (.ok (.success answer)) ∧ s.closed = false := ⟨_, h₆, rfl, rfl⟩
  obtain ⟨s, h, hr, hc⟩ := hs
  refine ⟨s, s, h, .returns hr, hc, ?_⟩
  rcases (setup_decided h).1 _ _ _ (.returns hr) with ⟨-, he⟩ | ⟨e, -, he⟩ | ⟨-, hf⟩
  · cases he
  · cases he
  · exact hf

end E2Node.StreamSession
