import E2Node.Proofs.Session.Events

namespace E2Node.StreamSession

open E2Node.Frame (Carries Longest Bad Framed)

variable {σ : Type} {s s' : StreamSession σ} {e : Event} {es : List Event} {p : Pdu}
  {h : Handler σ} {x : σ}

theorem consumed_eq_true_iff : s.consumed = true ↔
    Bad s.unread ∨ Frame.scan s.unread = .unfinished ∧ s.ended = true := by
  rw [consumed, Bad]
  cases hs : Frame.scan s.unread with
  | frame result rest => cases result <;> simp
  | unfinished => simp

theorem not_consumed {rest : List UInt8} (hs : Frame.scan s.unread = .frame (.ok p) rest) :
    s.consumed ≠ true := by
  rw [consumed, hs]
  exact nofun

theorem dropSetup_eq (s : StreamSession σ) : s.dropSetup =
    { s with setup := if s.setup = .waiting then .dropped else s.setup } := by
  obtain ⟨unread, ended, writable, reader, closed, setup, tasks, handlerState, written⟩ := s
  cases setup <;> rfl

theorem Event.carries_arrivals (ha : e.arrivals = []) (unread : List UInt8) :
    Carries (unread ++ e.arrivals) [] unread := by
  rw [ha, List.append_nil]
  exact .nil unread

theorem map_setPhase (s : StreamSession σ) (n : Nat) (q : RequestPhase) :
    (s.setPhase n q).tasks.map RequestTask.request = s.tasks.map RequestTask.request := by
  refine List.ext_getElem? fun m => ?_
  simp only [setPhase, List.getElem?_map, List.getElem?_modify]
  cases s.tasks[m]? with
  | none => rfl
  | some t => by_cases hn : n = m <;> simp [hn]

structure Change (s : StreamSession σ) (e : Event) (s' : StreamSession σ) : Prop where
  front : Carries (s.unread ++ e.arrivals) e.taken s'.unread
  tasks : s'.tasks.map RequestTask.request =
    s.tasks.map RequestTask.request ++ e.taken.filter Pdu.IsRequest
  written : e.reached ++ s'.written = s.written ++ e.written
  writable : s'.writable = true ↔ s.writable = true ∧ e ≠ .broke
  closed : s'.closed = true ↔ s.closed = true ∨ e.Closes
  consumed : s.consumed = true → s'.consumed = true
  cause : e.Closes → s'.consumed = true ∨ e = .closed false
  reader : s'.reader ≠ .reading → s.reader ≠ .reading ∨ s'.closed = true

theorem Change.quiet (hu : s'.unread = s.unread) (he : s'.ended = s.ended)
    (hr : s'.tasks.map RequestTask.request = s.tasks.map RequestTask.request)
    (hs : s'.writable = s.writable) (hc : s'.closed = s.closed)
    (hd : s'.reader ≠ .reading → s.reader ≠ .reading ∨ s'.closed = true)
    (ha : e.arrivals = []) (ht : e.taken = []) (hn : ¬ e.Closes) (hb : e ≠ .broke)
    (hw : e.reached ++ s'.written = s.written ++ e.written) : Change s e s' where
  front := by
    rw [ht, hu]
    exact Event.carries_arrivals ha _
  tasks := by rw [ht, hr, List.filter_nil, List.append_nil]
  written := hw
  writable := by simp [hs, hb]
  closed := by simp [hc, hn]
  consumed h := by rwa [consumed_eq_true_iff, hu, he, ← consumed_eq_true_iff]
  cause h := absurd h hn
  reader := hd

theorem Change.stop (hc : s.consumed = true) (ha : e.arrivals = []) (ht : e.taken = [])
    (he : e.Closes) (hw : e.reached = []) (hw' : e.written = []) :
    Change s e { s with closed := true, reader := .leaving } where
  front := by
    rw [ht]
    exact Event.carries_arrivals ha _
  tasks := by rw [ht, List.filter_nil, List.append_nil]
  written := by rw [hw, hw', List.append_nil]; rfl
  writable := by
    have hb : e ≠ .broke := by
      rintro rfl
      exact he
    simp [hb]
  closed := by simp [he]
  consumed h := h
  cause _ := .inl hc
  reader _ := .inr rfl

theorem Change.arrives (he : s.ended = false) (bytes : List UInt8) :
    Change s (.arrived bytes) (s.deliver bytes) where
  front := .nil _
  tasks := (List.append_nil _).symm
  written := (List.append_nil _).symm
  writable := by simp [deliver]
  closed := by simp [deliver, Event.Closes]
  consumed h := by
    rcases consumed_eq_true_iff.1 h with hb | ⟨-, he'⟩
    · exact consumed_eq_true_iff.2 (.inl (hb.append bytes))
    · rw [he] at he'
      cases he'
  cause := nofun
  reader := .inl

theorem Change.ends : Change s .ended { s with ended := true } where
  front := Event.carries_arrivals rfl _
  tasks := (List.append_nil _).symm
  written := (List.append_nil _).symm
  writable := by simp
  closed := by simp [Event.Closes]
  consumed h := by
    rw [consumed_eq_true_iff] at h ⊢
    exact h.imp_right fun h => ⟨h.1, rfl⟩
  cause := nofun
  reader := .inl

theorem Change.breaks : Change s .broke { s with writable := false } where
  front := Event.carries_arrivals rfl _
  tasks := (List.append_nil _).symm
  written := (List.append_nil _).symm
  writable := by simp
  closed := by simp [Event.Closes]
  consumed h := h
  cause := nofun
  reader := .inl

theorem Change.closes : Change s (.closed s.consumed) s.close where
  front := Event.carries_arrivals rfl _
  tasks := (List.append_nil _).symm
  written := (List.append_nil _).symm
  writable := by simp [close]
  closed := by simp [close, Event.Closes]
  consumed h := h
  cause _ := by
    cases hc : s.consumed with
    | false => exact .inr rfl
    | true => exact .inl hc
  reader := .inl

theorem Change.takes {rest : List UInt8} (hs : Frame.scan s.unread = .frame (.ok p) rest) :
    Change s (.took p) (route { s with unread := rest } p) := by
  rw [route_eq]
  refine ⟨?_, ?_, (List.append_nil _).symm, by simp, ?_, ?_, nofun, .inl⟩
  · change Carries (s.unread ++ []) [p] rest
    rw [List.append_nil]
    exact (Carries.nil rest).next hs
  · rw [List.map_append, List.map_map]
    exact congrArg (s.tasks.map RequestTask.request ++ ·) (List.map_id _)
  · simp [Event.Closes]
  · intro hc
    exact absurd hc (not_consumed hs)

theorem Happens.change (hh : Happens s e s') : Change s e s' := by
  cases hh with
  | arrives bytes he => exact .arrives he bytes
  | ends => exact .ends
  | breaks => exact .breaks
  | closes => exact .closes
  | takes hr hs => exact .takes hs
  | fails hr hs =>
      have hc := consumed_eq_true_iff.2 (.inl ⟨_, _, hs⟩)
      exact .stop hc rfl rfl trivial rfl rfl
  | finishes hr hs he =>
      have hc := consumed_eq_true_iff.2 (.inr ⟨hs, he⟩)
      exact .stop hc rfl rfl trivial rfl rfl
  | answers h hn =>
      rw [answer_eq hn]
      exact .quiet rfl rfl (map_setPhase ..) rfl rfl .inl rfl rfl nofun nofun
        (List.append_nil _).symm
  | checks hn =>
      rw [check_eq hn]
      exact .quiet rfl rfl (map_setPhase ..) rfl rfl .inl rfl rfl nofun nofun
        (List.append_nil _).symm
  | replies hn =>
      rw [reply_eq hn]
      exact .quiet rfl rfl (map_setPhase ..) rfl rfl .inl rfl rfl nofun nofun rfl
  | notices hr hc =>
      exact .quiet rfl rfl rfl rfl rfl (fun _ => .inr hc) rfl rfl nofun nofun
        (List.append_nil _).symm
  | leaves hr =>
      rw [dropSetup_eq]
      exact .quiet rfl rfl rfl rfl rfl (fun _ => .inl (by simp [hr])) rfl rfl nofun nofun
        (List.append_nil _).symm
  | sends hp hs =>
      obtain ⟨-, -, -, rfl⟩ := send_eq_ok_iff.1 hs
      exact .quiet rfl rfl rfl rfl rfl .inl rfl rfl nofun nofun rfl
  | receives hw =>
      refine .quiet rfl rfl rfl rfl rfl .inl rfl rfl nofun nofun ?_
      rw [receive, hw]
      exact (List.append_nil _).symm
  | registers | gives | timesOut | works =>
      exact .quiet rfl rfl rfl rfl rfl .inl rfl rfl nofun nofun (List.append_nil _).symm

def arrived (es : List Event) : List UInt8 := es.flatMap Event.arrivals

def taken (es : List Event) : List Pdu := es.flatMap Event.taken

def handed (es : List Event) : List Pdu := (taken es).filter Pdu.IsRequest

def onStream (es : List Event) : List Pdu := es.flatMap Event.written

def received (es : List Event) : List Pdu := es.flatMap Event.reached

/-- What a course of events has led to. -/
structure Account (es : List Event) (s : StreamSession σ) : Prop where
  front : Carries (arrived es) (taken es) s.unread
  tasks : s.tasks.map RequestTask.request = handed es
  written : received es ++ s.written = onStream es
  writable : s.writable = true ↔ .broke ∉ es
  closed : s.closed = true ↔ ∃ e ∈ es, e.Closes
  cause : s.closed = true → s.consumed = true ∨ .closed false ∈ es
  reader : s.reader ≠ .reading → s.closed = true

theorem Account.next (ha : Account es s) (hc : Change s e s') : Account (es ++ [e]) s' where
  front := by
    simp only [arrived, taken, List.flatMap_append, List.flatMap_singleton]
    exact (ha.front.append e.arrivals).trans hc.front
  tasks := by
    rw [hc.tasks, ha.tasks]
    simp only [handed, taken, List.flatMap_append, List.flatMap_singleton, List.filter_append]
  written := by
    simp only [received, onStream, List.flatMap_append, List.flatMap_singleton]
    calc received es ++ e.reached ++ s'.written
      _ = received es ++ s.written ++ e.written := by
          rw [List.append_assoc, hc.written, List.append_assoc]
      _ = onStream es ++ e.written := by rw [ha.written]
  writable := by
    rw [hc.writable, ha.writable, List.mem_append, List.mem_singleton, not_or]
    exact and_congr_right' ⟨Ne.symm, Ne.symm⟩
  closed := by
    rw [hc.closed, ha.closed]
    simp [or_and_right, exists_or]
  cause h := by
    rcases hc.closed.1 h with h | h
    · rcases ha.cause h with h | h
      · exact .inl (hc.consumed h)
      · exact .inr (List.mem_append_left _ h)
    · rcases hc.cause h with h | rfl
      · exact .inl h
      · exact .inr (List.mem_append_right _ List.mem_cons_self)
  reader h := by
    rcases hc.reader h with h | h
    · exact hc.closed.2 (.inl (ha.reader h))
    · exact h

theorem Course.account (hc : Course x es s) : Account es s := by
  induction hc with
  | start =>
      exact ⟨.nil _, rfl, rfl, by simp [StreamSession.start], by simp [StreamSession.start], nofun,
        nofun⟩
  | next _ hh ih => exact ih.next hh.change

end E2Node.StreamSession
