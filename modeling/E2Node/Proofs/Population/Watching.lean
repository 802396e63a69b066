import E2Node.Proofs.Population.Bare

namespace E2Node

namespace Population

def Lists (p : Population) (h : WatchHandle) : Prop :=
  ∃ d ∈ p.feeds, d.handle = h ∧ d.listed = true

variable {p : Population} {h : WatchHandle}

theorem unwatch_fst_iff : (p.unwatch h).1 = true ↔ p.Lists h := by
  simp only [unwatch, Lists, List.any_eq_true, Bool.and_eq_true, decide_eq_true_eq]

theorem unwatch_of_not_lists (hn : ¬ p.Lists h) : p.unwatch h = (false, p) := by
  have hsame : ∀ d ∈ p.feeds, (if d.handle = h then d.unlist else d) = d := by
    intro d hd
    split
    · rename_i hh
      have hl : d.listed = false := Bool.eq_false_iff.2 fun hl => hn ⟨d, hd, hh, hl⟩
      rw [Feed.unlist, ← hl]
    · rfl
  have hfst : (p.unwatch h).1 = false := Bool.eq_false_iff.2 (mt unwatch_fst_iff.1 hn)
  have hsnd : (p.unwatch h).2 = p := by
    rw [unwatch, modifyFeed, List.map_congr_left hsame, List.map_id']
  rw [← hfst]
  exact Prod.ext rfl hsnd

theorem lists_unwatch_iff {h' : WatchHandle} :
    (p.unwatch h).2.Lists h' ↔ p.Lists h' ∧ h' ≠ h := by
  constructor
  · rintro ⟨d, hd, rfl, hl⟩
    obtain ⟨d₀, hd₀, rfl⟩ := List.mem_map.1 hd
    split at hl
    · cases hl
    · rename_i hne
      rw [if_neg hne]
      exact ⟨⟨d₀, hd₀, rfl, hl⟩, hne⟩
  · rintro ⟨⟨d, hd, rfl, hl⟩, hne⟩
    exact ⟨d, List.mem_map.2 ⟨d, hd, if_neg hne⟩, rfl, hl⟩

theorem foldl_notify (p : Population) (es : List UeEvent) :
    es.foldl notify p = { p with feeds := p.feeds.map (Feed.tell es) } := by
  induction es generalizing p with
  | nil =>
      have hid : Feed.tell [] = id := rfl
      rw [hid, List.map_id]
      rfl
  | cons e es ih =>
      rw [List.foldl_cons, ih, notify, List.map_map]
      rfl

end Population

/-- A population and the watchers that were given their handles. -/
structure Watching (ν : Type) where
  population : Population
  untold : List UeEvent
  handles : ν → Option WatchHandle

def Feed.Attended (f : Feed) : Prop :=
  f.listed = true → f.receiving = true → f.forwarding = true

namespace Watching

inductive Op (ν : Type) : Type 1
  | call (c : Population.Call)
  | list
  | onCell (ecgi : Ecgi)
  | get (imsi : Imsi)
  | watch (n : ν) (capacity : Nat) (o : WatchOptions) (order : Shuffle)
  | unwatch (n : ν)

inductive Turn
  | forward
  | receive
  | dropReceiver

inductive Act (ν : Type) : Type 1
  | op (o : Op ν)
  | tell
  | turn (n : ν) (t : Turn)

inductive Reply
  | answered (r : Except RegistryError Population.Answer)
  | listed (ues : List Ue)
  | found (r : Except RegistryError Ue)
  | began (h : WatchHandle)
  | unwatched (was : Bool)
  | received (e : Option UeEvent)
  | quiet

def Act.watcher? {ν : Type} : Act ν → Option ν
  | op (.watch n ..) | op (.unwatch n) | turn n _ => some n
  | op (.call _) | op .list | op (.onCell _) | op (.get _) | tell => none

def Reply.began? : Reply → Option WatchHandle
  | began h => some h
  | _ => none

def Turn.on? (f : Feed) : Turn → Option (Reply × Feed)
  | forward => f.forward?.map fun g => (.quiet, g)
  | receive =>
      if f.receiving then
        match f.receive? with
        | some (e, g) => some (.received (some e), g)
        | none => if f.isClosed then some (.received none, f) else none
      else none
  | dropReceiver => some (.quiet, f.dropReceiver)

def Turn.reply? (t : Turn) (f : Feed) : Option Reply := (t.on? f).map Prod.fst

def Turn.after (t : Turn) (f : Feed) : Feed := ((t.on? f).map Prod.snd).getD f

variable {ν : Type}

def start (ν : Type) : Watching ν := ⟨.empty, [], fun _ => none⟩

def feed? (w : Watching ν) (n : ν) : Option Feed := (w.handles n).bind w.population.feed?

def answer (w : Watching ν) (c : Population.Call) :
    Except RegistryError (Population.Answer × Population) → Reply × Watching ν
  | .error e => (.answered (.error e), w)
  | .ok (x, q) => (.answered (.ok x),
      { w with population := { q with feeds := w.population.feeds }
               untold := c.events w.population q })

section

def serve (w : Watching ν) (n : ν) (reply? : Feed → Option Reply) (change : Feed → Feed) :
    Option (Reply × Watching ν) :=
  (w.feed? n).bind fun f => (reply? f).map fun r =>
    (r, { w with population := w.population.modifyFeed f.handle change })

variable [DecidableEq ν]

def watch (w : Watching ν) (n : ν) (capacity : Nat) (o : WatchOptions) (order : Shuffle) :
    WatchHandle × Watching ν :=
  let r := w.population.watch capacity o order
  (r.1, { w with population := r.2, handles := Function.update w.handles n (some r.1) })

def perform? (w : Watching ν) : Op ν → Option (Reply × Watching ν)
  | .call c => (c.finish? w.population).map (w.answer c)
  | .list => some (.listed w.population.toList, w)
  | .onCell ecgi => some (.listed (w.population.onCell ecgi), w)
  | .get imsi => some (.found (w.population.get imsi), w)
  | .watch n capacity o order =>
      let r := w.watch n capacity o order
      some (.began r.1, r.2)
  | .unwatch n => (w.handles n).map fun h =>
      let r := w.population.unwatch h
      (.unwatched r.1, { w with population := r.2 })

def step? (w : Watching ν) : Act ν → Option (Reply × Watching ν)
  | .op o => if w.untold.isEmpty then w.perform? o else none
  | .tell =>
      match w.untold with
      | [] => none
      | e :: es => some (.quiet, { w with population := w.population.notify e, untold := es })
  | .turn n t => w.serve n t.reply? t.after

def run (w : Watching ν) : List (Act ν) → Option (List (Option ν × Reply) × Watching ν)
  | [] => some ([], w)
  | a :: as => (w.step? a).bind fun r => (r.2.run as).map fun x => ((a.watcher?, r.1) :: x.1, x.2)

end

inductive Turned (f : Feed) : Feed → Prop
  | forwarded {g} (h : f.Forwarded g) : Turned f g
  | received (rest : List UeEvent) : Turned f { f with sink := rest }
  | dropped : Turned f f.dropReceiver
  | same : Turned f f

inductive Becomes (w : Watching ν) (a : Act ν) (d : Feed) : Feed → Prop
  | told {g} (e : UeEvent) (ha : a = .tell) (h : d.Hears e g) : Becomes w a d g
  | turned {g} (h : Turned d g) : Becomes w a d g
  | unlisted (n : ν) (ha : a = .op (.unwatch n)) (hh : w.handles n = some d.handle) :
      Becomes w a d d.unlist
  | same : Becomes w a d d

variable {w w' : Watching ν} {a : Act ν} {o : Op ν} {r : Reply} {n : ν} {f g : Feed}

theorem turned_of_on? {t : Turn} (h : t.on? f = some (r, g)) : r.began? = none ∧ Turned f g := by
  cases t with
  | forward =>
      obtain ⟨g, hg, he⟩ := Option.map_eq_some_iff.1 h
      cases he
      exact ⟨rfl, .forwarded (Feed.forwarded_of_forward? hg)⟩
  | receive =>
      rw [Turn.on?] at h
      split at h
      · split at h
        · rename_i e g' hg
          cases h
          rw [Feed.receive?] at hg
          split at hg
          · cases hg
            exact ⟨rfl, .received _⟩
          · cases hg
        · split at h
          · cases h
            exact ⟨rfl, .same⟩
          · cases h
      · cases h
  | dropReceiver =>
      cases h
      exact ⟨rfl, .dropped⟩

theorem turned_after (t : Turn) (f : Feed) : Turned f (t.after f) := by
  rw [Turn.after]
  cases h : t.on? f with
  | none => exact .same
  | some x => exact (turned_of_on? h).2

theorem Turned.handle (h : Turned f g) : g.handle = f.handle := by
  cases h with
  | forwarded h => cases h <;> rfl
  | received | dropped | same => rfl

theorem Turned.listed (h : Turned f g) : g.listed = f.listed := by
  cases h with
  | forwarded h => cases h <;> rfl
  | received | dropped | same => rfl

theorem Turned.attended (h : Turned f g) (hf : f.Attended) : g.Attended := by
  cases h with
  | forwarded h =>
      intro hl hr
      cases h with
      | put | taken => exact hf hl ‹_›
      | abandoned hn => cases hn.symm.trans hr
      | ended hn => cases hn.symm.trans hl
  | received | same => exact hf
  | dropped =>
      intro _ hr
      cases hr

theorem handles_of_feed? (hf : w.feed? n = some f) :
    w.handles n = some f.handle ∧ w.population.feed? f.handle = some f := by
  obtain ⟨h, hh, hf⟩ := Option.bind_eq_some_iff.1 hf
  rw [Population.handle_of_feed? hf]
  exact ⟨hh, hf⟩

namespace Becomes

theorem handle (h : Becomes w a f g) : g.handle = f.handle := by
  cases h with
  | told e _ h => exact h.handle
  | turned h => exact h.handle
  | unlisted | same => rfl

theorem attended (h : Becomes w a f g) (hf : f.Attended) : g.Attended := by
  cases h with
  | told e _ h =>
      intro hl hr
      cases h with
      | queued | apart => exact hf hl hr
      | struck => cases hl
  | turned h => exact h.attended hf
  | unlisted =>
      intro hl
      cases hl
  | same => exact hf

theorem listed (h : Becomes w a f g) : g.listed = f.listed ∨ g.listed = false ∧
    ((∃ n, a = .op (.unwatch n) ∧ w.handles n = some f.handle) ∨
      a = .tell ∧ f.forwarding = false) := by
  cases h with
  | told e ha h =>
      cases h with
      | queued | apart => exact .inl rfl
      | struck hl hf => exact .inr ⟨rfl, .inr ⟨ha, hf⟩⟩
  | turned h => exact .inl h.listed
  | unlisted n ha hh => exact .inr ⟨rfl, .inl ⟨n, ha, hh⟩⟩
  | same => exact .inl rfl

end Becomes

/-- Each watcher has a handle of its own, and each handle one feed. -/
structure Sound (w : Watching ν) : Prop where
  keyed : w.population.Keyed
  fresh : ∀ d ∈ w.population.feeds, d.handle.val < w.population.nextHandle.val
  unique : ∀ d ∈ w.population.feeds, ∀ d' ∈ w.population.feeds, d.handle = d'.handle → d = d'
  given : ∀ n h, w.handles n = some h → ∃ d ∈ w.population.feeds, d.handle = h
  own : ∀ n m h, w.handles n = some h → w.handles m = some h → n = m
  attended : ∀ d ∈ w.population.feeds, d.Attended

theorem Sound.lt (hw : w.Sound) {h : WatchHandle} (hn : w.handles n = some h) :
    h.val < w.population.nextHandle.val := by
  obtain ⟨d, hd, rfl⟩ := hw.given n h hn
  exact hw.fresh d hd

theorem Sound.feed?_isSome (hw : w.Sound) {h : WatchHandle} (hn : w.handles n = some h) :
    ∃ f, w.feed? n = some f ∧ f.handle = h := by
  obtain ⟨d, hd, he⟩ := hw.given n h hn
  have hs : (w.population.feed? h).isSome = true :=
    List.find?_isSome.2 ⟨d, hd, decide_eq_true he⟩
  obtain ⟨f, hf⟩ := Option.isSome_iff_exists.1 hs
  exact ⟨f, by rw [feed?, hn, Option.bind_some, hf], Population.handle_of_feed? hf⟩

theorem Sound.lists_iff (hw : w.Sound) (hf : w.feed? n = some f) :
    w.population.Lists f.handle ↔ f.listed = true := by
  have hm : f ∈ w.population.feeds := List.mem_of_find?_eq_some (handles_of_feed? hf).2
  constructor
  · rintro ⟨d, hd, he, hl⟩
    rwa [← hw.unique d hd f hm he]
  · intro hl
    exact ⟨f, hm, rfl, hl⟩

theorem sound_start : (start ν).Sound := by
  constructor
  case keyed =>
    intro i u hu
    cases hu
  all_goals intros; contradiction

variable [DecidableEq ν]

inductive Stepped (w : Watching ν) (a : Act ν) : Reply → Watching ν → Prop
  | began (n : ν) (capacity : Nat) (o : WatchOptions) (order : Shuffle)
      (ha : a = .op (.watch n capacity o order)) :
      Stepped w a (.began (w.watch n capacity o order).1) (w.watch n capacity o order).2
  | other {r : Reply} {w' : Watching ν} (change : Feed → Feed) (hr : r.began? = none)
      (hc : ∀ d, Becomes w a d (change d))
      (hf : w'.population.feeds = w.population.feeds.map change)
      (hn : w'.population.nextHandle = w.population.nextHandle) (hh : w'.handles = w.handles)
      (hk : w'.population.Keyed) : Stepped w a r w'

theorem handles_watch (w : Watching ν) (n m : ν) (capacity : Nat) (o : WatchOptions)
    (order : Shuffle) : (w.watch n capacity o order).2.handles m =
      if m = n then some w.population.nextHandle else w.handles m :=
  Function.update_apply ..

theorem stepped_answer (hk : w.population.Keyed) {c : Population.Call}
    {x : Except RegistryError (Population.Answer × Population)}
    (hx : c.finish? w.population = some x) (a : Act ν) :
    Stepped w a (w.answer c x).1 (w.answer c x).2 := by
  cases x with
  | error e => exact .other id rfl (fun _ => .same) (List.map_id _).symm rfl rfl hk
  | ok x =>
      have hc : c.end? w.population = some (.ok x.2) := by
        rw [Population.end?_eq_finish?, hx]
        rfl
      have ht := Population.told_end hk hc
      exact .other id rfl (fun _ => .same) (List.map_id _).symm ht.nextHandle rfl (ht.keyed hk)

theorem stepped_perform? (hk : w.population.Keyed) (hs : w.perform? o = some (r, w')) :
    Stepped w (.op o) r w' := by
  cases o with
  | call c =>
      obtain ⟨x, hx, he⟩ := Option.map_eq_some_iff.1 hs
      have h := stepped_answer hk hx (.op (.call c))
      rwa [he] at h
  | list | onCell | get =>
      cases hs
      exact .other id rfl (fun _ => .same) (List.map_id _).symm rfl rfl hk
  | watch n capacity o order =>
      cases hs
      exact .began n capacity o order rfl
  | unwatch n =>
      obtain ⟨h, hh, he⟩ := Option.map_eq_some_iff.1 hs
      cases he
      refine .other (fun d => if d.handle = h then d.unlist else d) rfl (fun d => ?_) rfl rfl rfl hk
      split
      · rename_i hd
        exact .unlisted n rfl (hd ▸ hh)
      · exact .same

theorem stepped_of_step? (hk : w.population.Keyed) (hs : w.step? a = some (r, w')) :
    Stepped w a r w' := by
  cases a with
  | op o =>
      rw [step?] at hs
      split at hs
      · exact stepped_perform? hk hs
      · cases hs
  | tell =>
      rw [step?] at hs
      split at hs
      · cases hs
      · rename_i e es _
        cases hs
        exact .other (Feed.notify e) rfl (fun d => .told e rfl (d.hears_notify e)) rfl rfl rfl hk
  | turn n t =>
      obtain ⟨f, hf, hs⟩ := Option.bind_eq_some_iff.1 hs
      obtain ⟨r', hr, he⟩ := Option.map_eq_some_iff.1 hs
      cases he
      obtain ⟨x, hx, rfl⟩ := Option.map_eq_some_iff.1 hr
      refine .other (fun d => if d.handle = f.handle then t.after d else d) ?_ (fun d => ?_)
        rfl rfl rfl hk
      · exact (turned_of_on? hx).1
      · split
        · exact .turned (turned_after t d)
        · exact .same

theorem Sound.feed?_modify (hw : w.Sound) (hf : w.feed? n = some f) {change : Feed → Feed}
    (hc : ∀ d, (change d).handle = d.handle) (m : ν) :
    feed? { w with population := w.population.modifyFeed f.handle change } m =
      if m = n then some (change f) else w.feed? m := by
  obtain ⟨hn, hp⟩ := handles_of_feed? hf
  have hc' : ∀ d, d.handle = f.handle → (change d).handle = f.handle := fun d hd => (hc d).trans hd
  rw [feed?, feed?]
  cases hm : w.handles m with
  | none =>
      rw [if_neg]
      · rfl
      · rintro rfl
        cases hm.symm.trans hn
  | some h =>
      rw [Option.bind_some, Population.feed?_modifyFeed_eq_ite _ _ _ hc']
      by_cases he : m = n
      · rw [if_pos he]
        rw [he, hn] at hm
        cases hm
        rw [if_pos rfl, hp]
        rfl
      · rw [if_neg he, if_neg, Option.bind_some]
        rintro rfl
        exact he (hw.own m n _ hm hn)

theorem Sound.feed?_watch (hw : w.Sound) (n m : ν) (capacity : Nat) (o : WatchOptions)
    (order : Shuffle) : (w.watch n capacity o order).2.feed? m =
      if m = n then some (w.population.newFeed capacity o order) else w.feed? m := by
  rw [feed?, handles_watch]
  split
  · exact Population.feed?_watch hw.fresh capacity o order
  · rw [feed?]
    cases hm : w.handles m with
    | none => rfl
    | some h =>
        obtain ⟨f, hf, rfl⟩ := hw.feed?_isSome hm
        have hp := (handles_of_feed? hf).2
        rw [Option.bind_some, Option.bind_some, hp]
        exact Population.feed?_watch_of_some hp _ _ _

theorem Sound.step (hw : w.Sound) (hs : Stepped w a r w') : w'.Sound := by
  cases hs with
  | began n capacity o order =>
      have hnew {d : Feed} : d ∈ (w.watch n capacity o order).2.population.feeds ↔
          d ∈ w.population.feeds ∨ d = w.population.newFeed capacity o order :=
        Population.mem_watch_iff
      constructor
      case keyed => exact hw.keyed
      case fresh =>
        intro d hd
        rcases hnew.1 hd with hd | rfl
        · exact Nat.lt_succ_of_lt (hw.fresh d hd)
        · exact Nat.lt_succ_self _
      case unique =>
        intro d hd d' hd' he
        rcases hnew.1 hd with hd | rfl <;> rcases hnew.1 hd' with hd' | rfl
        · exact hw.unique d hd d' hd' he
        · have hlt := hw.fresh d hd
          rw [he] at hlt
          exact absurd hlt (Nat.lt_irrefl _)
        · have hlt := hw.fresh d' hd'
          rw [← he] at hlt
          exact absurd hlt (Nat.lt_irrefl _)
        · rfl
      case given =>
        intro m h hm
        rw [handles_watch] at hm
        split at hm
        · cases hm
          exact ⟨_, hnew.2 (.inr rfl), rfl⟩
        · obtain ⟨d, hd, he⟩ := hw.given m h hm
          exact ⟨d, hnew.2 (.inl hd), he⟩
      case own =>
        intro m m' h hm hm'
        rw [handles_watch] at hm hm'
        split at hm <;> split at hm'
        · rename_i hn hn'
          rw [hn, hn']
        · cases hm
          exact absurd (hw.lt hm') (Nat.lt_irrefl _)
        · cases hm'
          exact absurd (hw.lt hm) (Nat.lt_irrefl _)
        · exact hw.own m m' h hm hm'
      case attended =>
        intro d hd
        rcases hnew.1 hd with hd | rfl
        · exact hw.attended d hd
        · exact fun _ _ => rfl
  | other change _ hc hf hn hh hk =>
      have hold : ∀ d ∈ w'.population.feeds, ∃ d₀ ∈ w.population.feeds, change d₀ = d ∧
          d.handle = d₀.handle := by
        intro d hd
        rw [hf] at hd
        obtain ⟨d₀, hd₀, rfl⟩ := List.mem_map.1 hd
        exact ⟨d₀, hd₀, rfl, (hc d₀).handle⟩
      constructor
      case keyed => exact hk
      case fresh =>
        intro d hd
        obtain ⟨d₀, hd₀, -, he⟩ := hold d hd
        rw [he, hn]
        exact hw.fresh d₀ hd₀
      case unique =>
        intro d hd d' hd' he
        obtain ⟨d₀, hd₀, rfl, h₀⟩ := hold d hd
        obtain ⟨d₁, hd₁, rfl, h₁⟩ := hold d' hd'
        rw [hw.unique d₀ hd₀ d₁ hd₁ (h₀.symm.trans (he.trans h₁))]
      case given =>
        intro m h hm
        rw [hh] at hm
        obtain ⟨d, hd, rfl⟩ := hw.given m h hm
        rw [hf]
        exact ⟨change d, List.mem_map_of_mem hd, (hc d).handle⟩
      case own =>
        rw [hh]
        exact hw.own
      case attended =>
        intro d hd
        obtain ⟨d₀, hd₀, rfl, -⟩ := hold d hd
        exact (hc d₀).attended (hw.attended d₀ hd₀)

theorem run_cons {as : List (Act ν)} {rs : List (Option ν × Reply)} :
    w.run (a :: as) = some (rs, w') ↔ ∃ r w₁ rs', w.step? a = some (r, w₁) ∧
      w₁.run as = some (rs', w') ∧ rs = (a.watcher?, r) :: rs' := by
  rw [run, Option.bind_eq_some_iff]
  constructor
  · rintro ⟨x, hx, hr⟩
    obtain ⟨y, hy, he⟩ := Option.map_eq_some_iff.1 hr
    cases he
    exact ⟨x.1, x.2, y.1, hx, hy, rfl⟩
  · rintro ⟨r, w₁, rs', hs, hr, rfl⟩
    exact ⟨(r, w₁), hs, by rw [hr]; rfl⟩

theorem Sound.run {as : List (Act ν)} {rs : List (Option ν × Reply)} (hw : w.Sound)
    (h : w.run as = some (rs, w')) : w'.Sound := by
  induction as generalizing w rs with
  | nil =>
      cases h
      exact hw
  | cons a as ih =>
      obtain ⟨r, w₁, rs', hs, hr, -⟩ := run_cons.1 h
      exact ih (hw.step (stepped_of_step? hw.keyed hs)) hr

theorem run_tell (w : Watching ν) : w.run (List.replicate w.untold.length .tell) =
    some (List.replicate w.untold.length (none, .quiet),
      { w with population := w.untold.foldl Population.notify w.population, untold := [] }) := by
  obtain ⟨p, es, handles⟩ := w
  induction es generalizing p with
  | nil => rfl
  | cons e es ih => exact run_cons.2 ⟨.quiet, ⟨p.notify e, es, handles⟩, _, rfl, ih _, rfl⟩

theorem run_call (hk : w.population.Keyed) (hu : w.untold = []) {c : Population.Call}
    {x : Except RegistryError (Population.Answer × Population)}
    (hc : c.finish? w.population = some x) :
    ∃ n, w.run (.op (.call c) :: List.replicate n .tell) =
      some ((none, .answered (x.map Prod.fst)) :: List.replicate n (none, .quiet),
        { w with population := (x.toOption.map Prod.snd).getD w.population }) := by
  have hs : w.step? (.op (.call c)) = some (w.answer c x) := by
    rw [step?, hu, List.isEmpty_nil, if_pos rfl, perform?, hc]
    rfl
  cases x with
  | error e => exact ⟨0, run_cons.2 ⟨_, _, _, hs, rfl, rfl⟩⟩
  | ok x =>
      have he : c.end? w.population = some (.ok x.2) := by
        rw [Population.end?_eq_finish?, hc]
        rfl
      have hr := run_tell (w.answer c (.ok x)).2
      have hq : (c.events w.population x.2).foldl Population.notify
          { x.2 with feeds := w.population.feeds } = x.2 := by
        rw [Population.foldl_notify, ← (Population.told_end hk he).feeds]
      simp only [answer, hq] at hr
      rw [hu]
      exact ⟨_, run_cons.2 ⟨_, _, _, hs, hr, rfl⟩⟩

theorem Sound.unlisted (hw : w.Sound) (hs : Stepped w a r w') (hf : f ∈ w.population.feeds)
    (hl : f.listed = true) (hn : ¬ w'.population.Lists f.handle) :
    (∃ n, a = .op (.unwatch n) ∧ w.handles n = some f.handle) ∨
      a = .tell ∧ f.forwarding = false ∧ f.receiving = false := by
  cases hs with
  | began n capacity o order =>
      exact absurd ⟨f, Population.mem_watch_iff.2 (.inl hf), rfl, hl⟩ hn
  | other change _ hc hfeeds =>
      have hm : change f ∈ w'.population.feeds := by
        rw [hfeeds]
        exact List.mem_map_of_mem hf
      rcases (hc f).listed with he | ⟨-, hown | ⟨ha, hd⟩⟩
      · exact absurd ⟨change f, hm, (hc f).handle, he.trans hl⟩ hn
      · exact .inl hown
      · refine .inr ⟨ha, hd, Bool.eq_false_iff.2 fun hr => ?_⟩
        cases hd.symm.trans (hw.attended f hf hl hr)

theorem lists_tell_iff (hs : w.step? .tell = some (r, w')) (h : WatchHandle) :
    w'.population.Lists h ↔
      ∃ d ∈ w.population.feeds, d.handle = h ∧ d.listed = true ∧ d.forwarding = true := by
  rw [step?] at hs
  split at hs
  · cases hs
  · rename_i e es _
    cases hs
    constructor
    · rintro ⟨d, hd, rfl, hl⟩
      obtain ⟨d₀, hd₀, rfl⟩ := List.mem_map.1 hd
      exact ⟨d₀, hd₀, (Feed.handle_notify e d₀).symm, (d₀.hears_notify e).listed_iff.1 hl⟩
    · rintro ⟨d, hd, rfl, hl⟩
      exact ⟨d.notify e, List.mem_map_of_mem hd, Feed.handle_notify e d,
        (d.hears_notify e).listed_iff.2 hl⟩

theorem Stepped.not_lists {h : WatchHandle} (hs : Stepped w a r w')
    (hlt : h.val < w.population.nextHandle.val) (hn : ¬ w.population.Lists h) :
    h.val < w'.population.nextHandle.val ∧ ¬ w'.population.Lists h := by
  cases hs with
  | began n capacity o order =>
      refine ⟨Nat.lt_succ_of_lt hlt, ?_⟩
      rintro ⟨d, hd, rfl, hl⟩
      rcases Population.mem_watch_iff.1 hd with hd | rfl
      · exact hn ⟨d, hd, rfl, hl⟩
      · exact Nat.lt_irrefl _ hlt
  | other change _ hc hf hnext =>
      rw [hnext]
      refine ⟨hlt, ?_⟩
      rintro ⟨d, hd, rfl, hl⟩
      rw [hf] at hd
      obtain ⟨d₀, hd₀, rfl⟩ := List.mem_map.1 hd
      refine hn ⟨d₀, hd₀, (hc d₀).handle.symm, ?_⟩
      rcases (hc d₀).listed with he | ⟨he, -⟩
      · exact he.symm.trans hl
      · cases he.symm.trans hl

theorem Sound.run_not_lists {as : List (Act ν)} {rs : List (Option ν × Reply)} {h : WatchHandle}
    (hw : w.Sound) (hr : w.run as = some (rs, w')) (hlt : h.val < w.population.nextHandle.val)
    (hn : ¬ w.population.Lists h) : ¬ w'.population.Lists h := by
  induction as generalizing w rs with
  | nil =>
      cases hr
      exact hn
  | cons a as ih =>
      obtain ⟨r, w₁, rs', hs, hr, -⟩ := run_cons.1 hr
      have hs := stepped_of_step? hw.keyed hs
      obtain ⟨hlt, hn⟩ := hs.not_lists hlt hn
      exact ih (hw.step hs) hr hlt hn

def begun (rs : List (Option ν × Reply)) : List WatchHandle := rs.filterMap fun x => x.2.began?

theorem Sound.run_begun {as : List (Act ν)} {rs : List (Option ν × Reply)} (hw : w.Sound)
    (hr : w.run as = some (rs, w')) :
    (begun rs).Nodup ∧ ∀ h ∈ begun rs, w.population.nextHandle.val ≤ h.val := by
  induction as generalizing w rs with
  | nil =>
      cases hr
      exact ⟨.nil, fun h hm => by cases hm⟩
  | cons a as ih =>
      obtain ⟨r, w₁, rs', hs, hr', rfl⟩ := run_cons.1 hr
      have hs := stepped_of_step? hw.keyed hs
      obtain ⟨hn, hle⟩ := ih (hw.step hs) hr'
      cases hs with
      | began n capacity o order =>
          have hle : ∀ h ∈ begun rs', w.population.nextHandle.val < h.val := hle
          refine ⟨List.nodup_cons.2 ⟨fun hm => Nat.lt_irrefl _ (hle _ hm), hn⟩, fun h hm => ?_⟩
          rcases List.mem_cons.1 hm with rfl | hm
          · exact Nat.le_refl _
          · exact Nat.le_of_lt (hle h hm)
      | other change hb _ _ hnext =>
          rw [hnext] at hle
          have he : begun ((a.watcher?, r) :: rs') = begun rs' := List.filterMap_cons_none hb
          rw [he]
          exact ⟨hn, hle⟩

inductive Unlists (w : Watching ν) (h : WatchHandle) : Act ν → Reply → Prop
  | unwatched (n : ν) (was : Bool) (hh : w.handles n = some h) :
      Unlists w h (.op (.unwatch n)) (.unwatched was)
  | replayed (n : ν) (capacity : Nat) (o : WatchOptions) (order : Shuffle)
      (ho : o.monitor = false) : Unlists w h (.op (.watch n capacity o order)) (.began h)

theorem Sound.unlists (hw : w.Sound) (hs : w.step? a = some (r, w')) {h : WatchHandle}
    (hu : Unlists w h a r) :
    h.val < w'.population.nextHandle.val ∧ ¬ w'.population.Lists h := by
  cases hu with
  | unwatched n was hh =>
      rw [step?] at hs
      split at hs
      · rw [perform?, hh, Option.map_some] at hs
        cases hs
        refine ⟨hw.lt hh, fun hl => ?_⟩
        exact (Population.lists_unwatch_iff.1 hl).2 rfl
      · cases hs
  | replayed n capacity o order ho =>
      rw [step?] at hs
      split at hs
      · cases hs
        refine ⟨Nat.lt_succ_self _, ?_⟩
        rintro ⟨d, hd, he, hl⟩
        rcases Population.mem_watch_iff.1 hd with hd | rfl
        · have hlt := hw.fresh d hd
          rw [he] at hlt
          exact Nat.lt_irrefl _ hlt
        · cases ho.symm.trans hl
      · cases hs

/-- Who leaves the list of watchers, and when, and that nobody comes back. -/
structure Regular (w : Watching ν) : Prop where
  leaves : ∀ a r w', w.step? a = some (r, w') → ∀ f ∈ w.population.feeds, f.listed = true →
    ¬ w'.population.Lists f.handle →
      (∃ n, a = .op (.unwatch n) ∧ w.handles n = some f.handle) ∨
        a = .tell ∧ f.forwarding = false ∧ f.receiving = false
  told : ∀ r w', w.step? .tell = some (r, w') → ∀ h, w'.population.Lists h ↔
    ∃ f ∈ w.population.feeds, f.handle = h ∧ f.listed = true ∧ f.forwarding = true
  unwatched : ∀ h, ((w.population.unwatch h).1 = true ↔ w.population.Lists h) ∧
    ∀ h', (w.population.unwatch h).2.Lists h' ↔ w.population.Lists h' ∧ h' ≠ h
  again : ∀ a r w₁ h, w.step? a = some (r, w₁) → Unlists w h a r →
    ∀ acts rs w₂, w₁.run acts = some (rs, w₂) → w₂.population.unwatch h = (false, w₂.population)

theorem Sound.regular (hw : w.Sound) : w.Regular where
  leaves _ _ _ hs _ hf hl hn := hw.unlisted (stepped_of_step? hw.keyed hs) hf hl hn
  told _ _ hs h := lists_tell_iff hs h
  unwatched _ := ⟨Population.unwatch_fst_iff, fun _ => Population.lists_unwatch_iff⟩
  again _ _ _ _ hs hu _ _ _ hr := by
    obtain ⟨hlt, hn⟩ := hw.unlists hs hu
    have hw₁ := hw.step (stepped_of_step? hw.keyed hs)
    exact Population.unwatch_of_not_lists (hw₁.run_not_lists hr hlt hn)

end Watching

end E2Node
