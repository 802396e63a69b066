import E2Node.Procedure.Script
import E2Node.Proofs.Session.Tasks

namespace E2Node

open E2Node.Frame (Carries Longest Bad Framed)

variable {σ : Type}

def RequestPhase.stage : RequestPhase → Nat
  | .waiting => 0
  | .replying _ => 1
  | .sending _ => 2
  | .replied _ | .lost => 3

theorem RequestPhase.isOver {q : RequestPhase} (h : 3 ≤ q.stage) : q.IsOver = true := by
  cases q with
  | replied | lost => rfl
  | waiting | replying | sending => simp [stage] at h

namespace StreamSession

variable {s s' : StreamSession σ} {e : Event} {es : List Event} {p reply : Pdu}
  {h : Handler σ} {x : σ} {n : Nat} {q : RequestPhase}

theorem readStep?_eq_none_iff : s.readStep? = none ↔ s.reader = .gone ∨
    s.reader = .reading ∧ s.closed = false ∧ Frame.scan s.unread = .unfinished ∧
      s.ended = false := by
  rw [readStep?]
  cases s.reader with
  | leaving | gone => simp
  | reading =>
      cases hc : s.closed with
      | true => simp
      | false =>
          cases hs : Frame.scan s.unread with
          | unfinished => cases he : s.ended <;> simp
          | frame result rest => cases result <;> simp

/-- How many steps the reader may take at most. -/
def remaining (s : StreamSession σ) : Nat :=
  s.unread.length + match s.reader with
    | .reading => 2
    | .leaving => 1
    | .gone => 0

theorem happens_of_readStep? (hr : s.readStep? = some s') :
    (∃ e, e ≠ .other ∧ Happens s e s') ∧ s'.remaining < s.remaining := by
  rw [readStep?] at hr
  split at hr
  · cases hr
  · rename_i hl
    cases hr
    refine ⟨⟨.left, nofun, .leaves hl⟩, ?_⟩
    simp [remaining, dropSetup_eq, hl]
  · rename_i hg
    split at hr
    · rename_i hc
      cases hr
      refine ⟨⟨.noticed, nofun, .notices hg hc⟩, ?_⟩
      simp [remaining, hg]
    · split at hr
      · rename_i p rest hs
        have hl := Frame.scan_length hs
        cases hr
        refine ⟨⟨.took p, nofun, .takes hg hs⟩, ?_⟩
        simp only [remaining, route_eq, hg]
        omega
      · rename_i e rest hs
        cases hr
        refine ⟨⟨.failed e, nofun, .fails hg hs⟩, ?_⟩
        simp [remaining, hg]
      · rename_i hs
        split at hr
        · rename_i he
          cases hr
          refine ⟨⟨.finished, nofun, .finishes hg hs he⟩, ?_⟩
          simp [remaining, hg]
        · cases hr

theorem readAll_rests {n : Nat} (hn : s.remaining ≤ n) : (s.readAll n).readStep? = none := by
  induction n generalizing s with
  | zero =>
      cases hr : s.readStep? with
      | none => exact hr
      | some s' =>
          have hlt := (happens_of_readStep? hr).2
          omega
  | succ n ih =>
      rw [readAll]
      cases hr : s.readStep? with
      | none => exact hr
      | some s' =>
          have hlt := (happens_of_readStep? hr).2
          exact ih (by omega)

theorem Course.readAll (hc : Course x es s) (n : Nat) :
    ∃ fs, Course x (es ++ fs) (s.readAll n) := by
  induction n generalizing s es with
  | zero => exact ⟨[], by rwa [List.append_nil]⟩
  | succ n ih =>
      rw [StreamSession.readAll]
      cases hr : s.readStep? with
      | none => exact ⟨[], by rwa [List.append_nil]⟩
      | some s' =>
          obtain ⟨⟨e, -, he⟩, -⟩ := happens_of_readStep? hr
          obtain ⟨fs, hf⟩ := ih (hc.next he)
          exact ⟨e :: fs, by rwa [List.append_cons]⟩

structure Advance (n j k : Nat) (s s' : StreamSession σ) : Prop where
  course : ∀ {x es}, Course x es s → ∃ fs, Course x (es ++ fs) s'
  rests : s.readStep? = none → s'.readStep? = none
  others : ∀ m, m ≠ n → s'.tasks[m]? = s.tasks[m]?
  length : s'.tasks.length = s.tasks.length
  stage : (∀ t, s.tasks[n]? = some t → j ≤ t.phase.stage) →
    ∀ t, s'.tasks[n]? = some t → k ≤ t.phase.stage

theorem Advance.quiet {j k : Nat} (hk : ∀ t, s.tasks[n]? = some t → j ≤ t.phase.stage →
    k ≤ t.phase.stage) : Advance n j k s s where
  course hc := ⟨[], by rwa [List.append_nil]⟩
  rests := id
  others _ _ := rfl
  length := rfl
  stage hj t ht := hk t ht (hj t ht)

theorem Advance.trans {j k l : Nat} {s'' : StreamSession σ} (h₁ : Advance n j k s s')
    (h₂ : Advance n k l s' s'') : Advance n j l s s'' where
  course hc := by
    obtain ⟨fs, hf⟩ := h₁.course hc
    obtain ⟨gs, hg⟩ := h₂.course hf
    exact ⟨fs ++ gs, by rwa [← List.append_assoc]⟩
  rests hr := h₂.rests (h₁.rests hr)
  others m hm := (h₂.others m hm).trans (h₁.others m hm)
  length := h₂.length.trans h₁.length
  stage hj := h₂.stage (h₁.stage hj)

theorem Advance.of_setPhase {j k : Nat} (hh : Happens s e s') {y : σ} {ps : List Pdu}
    (hs : s' = { s with handlerState := y, written := ps }.setPhase n q) (hq : k ≤ q.stage) :
    Advance n j k s s' where
  course hc := ⟨[e], hc.next hh⟩
  rests hr := by
    rw [readStep?_eq_none_iff] at hr ⊢
    rwa [hs]
  others m hm := by rw [hs, getElem?_setPhase_of_ne hm]
  length := by simp [hs, setPhase]
  stage _ t ht := by
    rw [hs, getElem?_setPhase, Option.map_eq_some_iff] at ht
    obtain ⟨t, -, rfl⟩ := ht
    exact hq

theorem advance_answer (h : Handler σ) (s : StreamSession σ) (n : Nat) :
    Advance n 0 1 s (s.answer h n) := by
  cases hn : s.tasks[n]? with
  | none =>
      simp only [answer, hn]
      exact .quiet (by simp [hn])
  | some t =>
      obtain ⟨p, q⟩ := t
      cases q with
      | waiting =>
          refine .of_setPhase (.answers h hn) (answer_eq hn) ?_
          cases (h.serve p s.handlerState).1 <;> simp [RequestPhase.after, RequestPhase.stage]
      | _ =>
          simp only [answer, hn]
          exact .quiet (by simp [hn, RequestPhase.stage])

theorem advance_check (s : StreamSession σ) (n : Nat) : Advance n 1 2 s (s.check n) := by
  cases hn : s.tasks[n]? with
  | none =>
      simp only [check, hn]
      exact .quiet (by simp [hn])
  | some t =>
      obtain ⟨p, q⟩ := t
      cases q with
      | replying reply =>
          refine .of_setPhase (.checks hn) (check_eq hn) ?_
          cases s.closed <;> simp [RequestPhase.stage]
      | _ =>
          simp only [check, hn]
          exact .quiet (by simp [hn, RequestPhase.stage])

theorem advance_reply (s : StreamSession σ) (n : Nat) : Advance n 2 3 s (s.reply n) := by
  cases hn : s.tasks[n]? with
  | none =>
      simp only [StreamSession.reply, hn]
      exact .quiet (by simp [hn])
  | some t =>
      obtain ⟨p, q⟩ := t
      cases q with
      | sending reply =>
          refine .of_setPhase (.replies hn) (reply_eq hn) ?_
          cases (s.write reply).isOk <;> simp [RequestPhase.stage]
      | _ =>
          simp only [StreamSession.reply, hn]
          exact .quiet (by simp [hn, RequestPhase.stage])

theorem advance_serve (h : Handler σ) (s : StreamSession σ) (n : Nat) :
    Advance n 0 3 s (s.serve h n) :=
  ((advance_answer h s n).trans (advance_check _ n)).trans (advance_reply _ n)

theorem advance_serveAll (h : Handler σ) (s : StreamSession σ) (k : Nat) :
    let s' := (List.range k).foldl (serve h) s
    (∀ {x es}, Course x es s → ∃ fs, Course x (es ++ fs) s') ∧
      (s.readStep? = none → s'.readStep? = none) ∧ s'.tasks.length = s.tasks.length ∧
      ∀ n t, n < k → s'.tasks[n]? = some t → t.phase.IsOver = true := by
  induction k with
  | zero =>
      exact ⟨fun hc => ⟨[], by rwa [List.append_nil]⟩, id, rfl,
        fun n t hn => absurd hn n.not_lt_zero⟩
  | succ k ih =>
      obtain ⟨hc, hr, hl, ho⟩ := ih
      have ha := advance_serve h ((List.range k).foldl (serve h) s) k
      rw [List.range_succ, List.foldl_append]
      refine ⟨fun hc' => ?_, fun hr' => ha.rests (hr hr'), ha.length.trans hl,
        fun n t hn ht => ?_⟩
      · obtain ⟨fs, hf⟩ := hc hc'
        obtain ⟨gs, hg⟩ := ha.course hf
        exact ⟨fs ++ gs, by rwa [← List.append_assoc]⟩
      · by_cases hnk : n = k
        · subst hnk
          exact RequestPhase.isOver (ha.stage (fun _ _ => Nat.zero_le _) t ht)
        · exact ho n t (by omega) ((ha.others n hnk).symm.trans ht)

theorem Course.settle (hc : Course x es s) (h : Handler σ) :
    ∃ fs, Course x (es ++ fs) (s.settle h) ∧ (s.settle h).readStep? = none ∧
      ∀ t ∈ (s.settle h).tasks, t.phase.IsOver = true := by
  have hn : s.remaining ≤ s.unread.length + 3 := by
    rw [remaining]
    split <;> omega
  obtain ⟨fs, hf⟩ := hc.readAll (s.unread.length + 3)
  obtain ⟨hg, hr, hl, ho⟩ := advance_serveAll h (s.readAll (s.unread.length + 3))
    (s.readAll (s.unread.length + 3)).tasks.length
  obtain ⟨gs, hg⟩ := hg hf
  refine ⟨fs ++ gs, by rwa [← List.append_assoc], hr (readAll_rests hn), fun t ht => ?_⟩
  obtain ⟨n, hn, rfl⟩ := List.getElem_of_mem ht
  exact ho n _ (hl ▸ hn) (List.getElem?_eq_getElem hn)

theorem Account.exhausted (ha : Account es s) (hr : s.readStep? = none)
    (he : Event.closed false ∉ es) (p : Pdu) (after : List UInt8) :
    Frame.scan s.unread ≠ .frame (.ok p) after := by
  intro hs
  rcases readStep?_eq_none_iff.1 hr with hg | ⟨-, -, hu, -⟩
  · have hc : s.closed = true := ha.reader (by rw [hg]; exact nofun)
    rcases ha.cause hc with hc | hc
    · exact not_consumed hs hc
    · exact he hc
  · rw [hu] at hs
    cases hs

/-- How the next event treats the setup, the flag and the request it serves. -/
structure Proper (s : StreamSession σ) (e : Event) (s' : StreamSession σ) : Prop where
  closed : s'.closed = true ↔ s.closed = true ∨ e.Closes
  ignored : ∀ p, e = .took p → p.IsRequest = false → p.outcome? = none →
    ∃ rest, s' = { s with unread := rest }
  outcome : ∀ p o, e = .took p → p.outcome? = some o → ∃ rest, s' = { s with
    unread := rest, setup := if s.setup = .waiting then .answered o else s.setup }
  answered : ∀ o, s'.setup = .answered o → s.setup = .answered o ∨
    s.setup = .waiting ∧ ∃ p, e = .took p ∧ p.outcome? = some o
  own : ∀ p, e = .sent p → p.IsOwn = true
  called : ∀ n p r, e = .answered n p r →
    s.tasks[n]? = some ⟨p, .waiting⟩ ∧ ∃ h, s' = s.answer h n
  uncalled : (∀ n p r, e ≠ .answered n p r) → e ≠ .other → s'.handlerState = s.handlerState

theorem Happens.took (hh : Happens s (.took p) s') :
    ∃ rest, s' = route { s with unread := rest } p := by
  cases hh with
  | takes => exact ⟨_, rfl⟩

theorem isRequest_of_outcome? {o : SetupOutcome} (h : p.outcome? = some o) :
    p.IsRequest = false := by
  cases p with
  | setupResponse | setupFailure => rfl
  | _ => cases h

theorem Happens.answered (hh : Happens s e s') {o : SetupOutcome} (hs : s'.setup = .answered o) :
    s.setup = .answered o ∨ s.setup = .waiting ∧ ∃ p, e = .took p ∧ p.outcome? = some o := by
  cases hh with
  | @takes p rest =>
      rw [route_eq] at hs
      dsimp only at hs
      split at hs
      · rename_i o' ho hw
        cases hs
        exact .inr ⟨hw, p, rfl, ho⟩
      · exact .inl hs
  | leaves =>
      rw [dropSetup_eq] at hs
      dsimp only at hs
      split at hs
      · cases hs
      · exact .inl hs
  | answers h hn =>
      rw [answer_eq hn] at hs
      exact .inl hs
  | checks hn =>
      rw [check_eq hn] at hs
      exact .inl hs
  | replies hn =>
      rw [reply_eq hn] at hs
      exact .inl hs
  | sends hp hw =>
      obtain ⟨-, -, -, rfl⟩ := send_eq_ok_iff.1 hw
      exact .inl hs
  | registers | gives | timesOut => cases hs
  | _ => exact .inl hs

theorem Happens.uncalled (hh : Happens s e s') (ha : ∀ n p r, e ≠ .answered n p r)
    (he : e ≠ .other) : s'.handlerState = s.handlerState := by
  cases hh with
  | takes => rw [route_eq]
  | leaves => rw [dropSetup_eq]
  | answers => exact absurd rfl (ha _ _ _)
  | checks hn => rw [check_eq hn]; rfl
  | replies hn => rw [reply_eq hn]; rfl
  | sends hp hs =>
      obtain ⟨-, -, -, rfl⟩ := send_eq_ok_iff.1 hs
      rfl
  | works => exact absurd rfl he
  | _ => rfl

end StreamSession

end E2Node
