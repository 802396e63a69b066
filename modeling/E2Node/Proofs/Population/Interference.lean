import E2Node.Proofs.Population.Watching

namespace E2Node

def Feed.unnamed (f : Feed) : Feed := { f with handle := ⟨0⟩ }

namespace Watching

variable {ν : Type} {seen : ν → Bool} {f f₀ g : Feed} {t : Turn} {a : Act ν}

@[ext]
structure View (ν : Type) where
  population : Population
  untold : List UeEvent
  feeds : ν → Option Feed

/-- What some of the watchers, and all callers, can tell. -/
def view (seen : ν → Bool) (w : Watching ν) : View ν :=
  ⟨w.population.bare, w.untold, fun n => if seen n then (w.feed? n).map Feed.unnamed else none⟩

def View.answer (v : View ν) (c : Population.Call) :
    Except RegistryError (Population.Answer × Population) → Reply × View ν
  | .error e => (.answered (.error e), v)
  | .ok (x, q) => (.answered (.ok x),
      { v with population := q, untold := c.events v.population q })

def Act.shows (seen : ν → Bool) (a : Act ν) : Bool := a.watcher?.all seen

def Reply.unnamed : Reply → Reply
  | began _ => .began ⟨0⟩
  | answered r => .answered r
  | listed us => .listed us
  | found r => .found r
  | unwatched b => .unwatched b
  | received e => .received e
  | quiet => .quiet

def present (seen : ν → Bool) (x : Reply × Watching ν) : Reply × View ν :=
  (x.1.unnamed, x.2.view seen)

def shown (seen : ν → Bool) (rs : List (Option ν × Reply)) : List (Option ν × Reply) :=
  (rs.filter fun x => x.1.all seen).map fun x => (x.1, x.2.unnamed)

theorem unnamed_notify (e : UeEvent) (f : Feed) : (f.notify e).unnamed = f.unnamed.notify e := by
  obtain ⟨handle, listed, queue, held, forwarding, sink, capacity, receiving⟩ := f
  cases listed <;> cases forwarding <;> rfl

theorem unnamed_forward? (f : Feed) : f.unnamed.forward? = f.forward?.map Feed.unnamed := by
  obtain ⟨handle, listed, queue, held, forwarding, sink, capacity, receiving⟩ := f
  cases forwarding with
  | false => rfl
  | true =>
      cases held with
      | none => cases queue <;> cases listed <;> rfl
      | some e =>
          cases receiving with
          | false => rfl
          | true =>
              change (if sink.length < capacity then some _ else none) =
                Option.map _ (if sink.length < capacity then some _ else none)
              split <;> rfl

theorem unnamed_on? (t : Turn) (f : Feed) :
    t.on? f.unnamed = (t.on? f).map fun r => (r.1, r.2.unnamed) := by
  cases t with
  | forward =>
      rw [Turn.on?, Turn.on?, unnamed_forward?]
      cases f.forward? <;> rfl
  | receive =>
      obtain ⟨handle, listed, queue, held, forwarding, sink, capacity, receiving⟩ := f
      cases receiving <;> cases sink <;> cases forwarding <;> rfl
  | dropReceiver => rfl

theorem reply?_unnamed (t : Turn) (f : Feed) : t.reply? f.unnamed = t.reply? f := by
  rw [Turn.reply?, Turn.reply?, unnamed_on?]
  cases t.on? f <;> rfl

theorem unnamed_after (t : Turn) (f : Feed) : (t.after f).unnamed = t.after f.unnamed := by
  rw [Turn.after, Turn.after, unnamed_on?]
  cases t.on? f <;> rfl

section

variable {w w₀ w' : Watching ν} {n : ν}

theorem view_eq_iff : w.view seen = w₀.view seen ↔
    w.population.bare = w₀.population.bare ∧ w.untold = w₀.untold ∧
      ∀ n, seen n = true → (w.feed? n).map Feed.unnamed = (w₀.feed? n).map Feed.unnamed := by
  rw [View.ext_iff, funext_iff]
  refine and_congr_right fun _ => and_congr_right fun _ => forall_congr' fun n => ?_
  cases hn : seen n <;> simp [view, hn]

theorem feed?_of_view (hv : w.view seen = w₀.view seen) (hn : seen n = true)
    (hf : w.feed? n = some f) : ∃ f₀, w₀.feed? n = some f₀ ∧ f.unnamed = f₀.unnamed := by
  have he := (view_eq_iff.1 hv).2.2 n hn
  rw [hf] at he
  obtain ⟨f₀, hf₀, he⟩ := Option.map_eq_some_iff.1 he.symm
  exact ⟨f₀, hf₀, he.symm⟩

theorem present_answer (w : Watching ν) (c : Population.Call)
    (x : Except RegistryError (Population.Answer × Population)) :
    present seen (w.answer c x) =
      (w.view seen).answer c (x.map fun y => (y.1, y.2.bare)) := by
  cases x with
  | error e => rfl
  | ok x =>
      have he := Population.events_bare w.population x.2 c
      exact Prod.ext rfl (View.ext rfl he.symm rfl)

theorem present_call (w : Watching ν) (c : Population.Call) :
    ((c.finish? w.population).map (w.answer c)).map (present seen) =
      (c.finish? (w.view seen).population).map ((w.view seen).answer c) := by
  have hb : (w.view seen).population = w.population.bare := rfl
  rw [hb, Population.finish?_bare, Option.map_map, Option.map_map]
  congr 1
  funext x
  exact present_answer w c x

theorem feed?_tell (w : Watching ν) (e : UeEvent) (es : List UeEvent) (n : ν) :
    feed? { w with population := w.population.notify e, untold := es } n =
      (w.feed? n).map (Feed.notify e) := by
  rw [feed?, feed?]
  cases w.handles n with
  | none => rfl
  | some h => exact Population.feed?_map (Feed.handle_notify e)

theorem shown_cons (seen : ν → Bool) (a : Act ν) (r : Reply) (rs : List (Option ν × Reply)) :
    shown seen ((a.watcher?, r) :: rs) =
      if a.shows seen then (a.watcher?, r.unnamed) :: shown seen rs else shown seen rs := by
  rw [shown, List.filter_cons]
  change List.map _ (if a.shows seen then _ else _) = _
  split <;> rfl

variable [DecidableEq ν]

theorem present_serve (hw : w.Sound) (hw₀ : w₀.Sound) (hv : w.view seen = w₀.view seen)
    (hn : seen n = true) {reply? : Feed → Option Reply} {change : Feed → Feed}
    (hr : ∀ f, reply? f.unnamed = reply? f) (hc : ∀ f, (change f).handle = f.handle)
    (hu : ∀ f, (change f).unnamed = change f.unnamed) :
    (w.serve n reply? change).map (present seen) =
      (w₀.serve n reply? change).map (present seen) := by
  obtain ⟨hb, ht, hf⟩ := view_eq_iff.1 hv
  have hfn := hf n hn
  rw [serve, serve]
  cases hx : w.feed? n with
  | none =>
      rw [hx] at hfn
      rw [Option.map_eq_none_iff.1 hfn.symm]
      rfl
  | some f =>
      obtain ⟨f₀, hx₀, he⟩ := feed?_of_view hv hn hx
      rw [hx₀, Option.bind_some, Option.bind_some, ← hr f, he, hr f₀]
      cases reply? f₀ with
      | none => rfl
      | some r =>
          refine congrArg some (Prod.ext rfl (view_eq_iff.2 ⟨hb, ht, fun m hm => ?_⟩))
          rw [hw.feed?_modify hx hc, hw₀.feed?_modify hx₀ hc]
          split
          · rw [Option.map_some, Option.map_some, hu, hu, he]
          · exact hf m hm

theorem Sound.perform_unwatch (hw : w.Sound) (n : ν) :
    w.perform? (.unwatch n) = w.serve n (fun f => some (.unwatched f.listed)) Feed.unlist := by
  rw [perform?, serve]
  cases hh : w.handles n with
  | none =>
      rw [feed?, hh]
      rfl
  | some h =>
      obtain ⟨f, hf, rfl⟩ := hw.feed?_isSome hh
      have hl : (w.population.unwatch f.handle).1 = f.listed := by
        rw [Bool.eq_iff_iff, Population.unwatch_fst_iff, hw.lists_iff hf]
      rw [Option.map_some, hf, Option.bind_some, Option.map_some]
      dsimp only
      rw [hl]
      rfl

theorem present_perform (hw : w.Sound) (hw₀ : w₀.Sound) (hv : w.view seen = w₀.view seen)
    {o : Op ν} (ho : (Act.op o).shows seen = true) :
    (w.perform? o).map (present seen) = (w₀.perform? o).map (present seen) := by
  obtain ⟨hb, ht, hf⟩ := view_eq_iff.1 hv
  have hues : w.population.bare.ues = w₀.population.bare.ues := congrArg Population.ues hb
  rw [Population.bare_ues, Population.bare_ues] at hues
  cases o with
  | call c => rw [perform?, perform?, present_call, present_call, hv]
  | list =>
      rw [perform?, perform?, Population.toList, Population.toList, hues]
      exact congrArg (fun v => some (_, v)) hv
  | onCell ecgi =>
      rw [perform?, perform?, Population.onCell, Population.onCell, hues]
      exact congrArg (fun v => some (_, v)) hv
  | get imsi =>
      rw [perform?, perform?, Population.get, Population.get, hues]
      exact congrArg (fun v => some (_, v)) hv
  | watch n capacity o order =>
      refine congrArg some (Prod.ext rfl (view_eq_iff.2 ⟨hb, ht, fun m hm => ?_⟩))
      rw [hw.feed?_watch, hw₀.feed?_watch, Population.newFeed, Population.newFeed,
        Population.replay, Population.replay, hues]
      split
      · rfl
      · exact hf m hm
  | unwatch n =>
      rw [hw.perform_unwatch, hw₀.perform_unwatch]
      exact present_serve hw hw₀ hv ho (fun _ => rfl) (fun _ => rfl) fun _ => rfl

theorem present_step (hw : w.Sound) (hw₀ : w₀.Sound) (hv : w.view seen = w₀.view seen)
    (ha : a.shows seen = true) :
    (w.step? a).map (present seen) = (w₀.step? a).map (present seen) := by
  obtain ⟨hb, ht, hf⟩ := view_eq_iff.1 hv
  cases a with
  | op o =>
      rw [step?, step?, ht]
      split
      · exact present_perform hw hw₀ hv ha
      · rfl
  | tell =>
      rw [step?, step?, ht]
      cases w₀.untold with
      | nil => rfl
      | cons e es =>
          refine congrArg some (Prod.ext rfl (view_eq_iff.2 ⟨hb, rfl, fun n hn => ?_⟩))
          have both := congrArg (Option.map (Feed.notify e)) (hf n hn)
          rw [feed?_tell, feed?_tell, Option.map_map, Option.map_map]
          rw [Option.map_map, Option.map_map] at both
          simpa only [Function.comp_def, unnamed_notify] using both
  | turn n t =>
      exact present_serve hw hw₀ hv ha (reply?_unnamed t) (fun f => (turned_after t f).handle)
        (unnamed_after t)

theorem view_serve (hw : w.Sound) (hn : seen n = false) {reply? : Feed → Option Reply}
    {change : Feed → Feed} (hc : ∀ f, (change f).handle = f.handle) {r : Reply}
    (hs : w.serve n reply? change = some (r, w')) : w'.view seen = w.view seen := by
  obtain ⟨f, hf, hs⟩ := Option.bind_eq_some_iff.1 hs
  obtain ⟨r', -, he⟩ := Option.map_eq_some_iff.1 hs
  cases he
  refine view_eq_iff.2 ⟨rfl, rfl, fun m hm => ?_⟩
  rw [hw.feed?_modify hf hc, if_neg]
  rintro rfl
  cases hn.symm.trans hm

theorem view_step (hw : w.Sound) (ha : a.shows seen = false) {r : Reply}
    (hs : w.step? a = some (r, w')) : w'.view seen = w.view seen := by
  cases a with
  | op o =>
      rw [step?] at hs
      split at hs
      · cases o with
        | call | list | onCell | get => cases ha
        | watch n capacity o order =>
            have hn : seen n = false := ha
            cases hs
            refine view_eq_iff.2 ⟨rfl, rfl, fun m hm => ?_⟩
            rw [hw.feed?_watch, if_neg]
            rintro rfl
            cases hn.symm.trans hm
        | unwatch n =>
            rw [hw.perform_unwatch] at hs
            have hc : ∀ f : Feed, f.unlist.handle = f.handle := fun _ => rfl
            exact view_serve hw ha hc hs
      · cases hs
  | tell => cases ha
  | turn n t => exact view_serve hw ha (fun f => (turned_after t f).handle) hs

theorem Sound.run_seen {acts : List (Act ν)} {rs : List (Option ν × Reply)} (hw : w.Sound)
    (hw₀ : w₀.Sound) (hv : w₀.view seen = w.view seen) (hr : w.run acts = some (rs, w')) :
    ∃ rs₀ w₀', w₀.run (acts.filter (·.shows seen)) = some (rs₀, w₀') ∧
      shown seen rs₀ = shown seen rs ∧ w₀'.view seen = w'.view seen := by
  induction acts generalizing w w₀ rs with
  | nil =>
      cases hr
      exact ⟨[], w₀, rfl, rfl, hv⟩
  | cons a acts ih =>
      obtain ⟨r, w₁, rs', hs, hr', rfl⟩ := run_cons.1 hr
      have hw₁ := hw.step (stepped_of_step? hw.keyed hs)
      rw [shown_cons]
      cases ha : a.shows seen with
      | false =>
          rw [List.filter_cons_of_neg (by rw [ha]; exact Bool.false_ne_true)]
          exact ih hw₁ hw₀ (hv.trans (view_step hw ha hs).symm) hr'
      | true =>
          have hp := present_step hw₀ hw hv ha
          rw [hs] at hp
          obtain ⟨⟨r₀, w₁'⟩, hs₀, he⟩ := Option.map_eq_some_iff.1 hp
          obtain ⟨hr₀, hv₁⟩ := Prod.mk.inj he
          have hw₁' := hw₀.step (stepped_of_step? hw₀.keyed hs₀)
          obtain ⟨rs₀, w₀', hrun, hrs, hv'⟩ := ih hw₁ hw₁' hv₁ hr'
          rw [List.filter_cons_of_pos ha]
          refine ⟨_, w₀', run_cons.2 ⟨r₀, w₁', rs₀, hs₀, hrun, rfl⟩, ?_, hv'⟩
          rw [shown_cons, ha, if_pos rfl, if_pos rfl, hrs]
          exact congrArg (fun x => (a.watcher?, x) :: shown seen rs') hr₀

/-- Whatever other watchers do, those that are seen get the same replies and events, and so do all
calls. The list of watchers follows its rules, and no handle is given twice. Told at once, the
events of a call leave what the call itself leaves. -/
theorem watchers_apart {acts : List (Act ν)} {rs : List (Option ν × Reply)} {w : Watching ν}
    (hr : (start ν).run acts = some (rs, w)) :
    (∀ seen, ∃ rs₀ w₀, (start ν).run (acts.filter (·.shows seen)) = some (rs₀, w₀) ∧
      shown seen rs₀ = shown seen rs ∧ w₀.view seen = w.view seen) ∧
    (∀ seen acts' rs' w', (start ν).run acts' = some (rs', w') →
      acts'.filter (·.shows seen) = acts.filter (·.shows seen) →
        shown seen rs' = shown seen rs ∧ w'.view seen = w.view seen) ∧
    (begun rs).Nodup ∧ w.Regular ∧
    (w.untold = [] → ∀ (c : Population.Call) x, c.finish? w.population = some x →
      ∃ n, w.run (.op (.call c) :: List.replicate n .tell) =
        some ((none, .answered (x.map Prod.fst)) :: List.replicate n (none, .quiet),
          { w with population := (x.toOption.map Prod.snd).getD w.population })) := by
  have alone (seen : ν → Bool) {acts' : List (Act ν)} {rs' : List (Option ν × Reply)}
      {w' : Watching ν} (hr' : (start ν).run acts' = some (rs', w')) :
      ∃ rs₀ w₀, (start ν).run (acts'.filter (·.shows seen)) = some (rs₀, w₀) ∧
        shown seen rs₀ = shown seen rs' ∧ w₀.view seen = w'.view seen :=
    sound_start.run_seen sound_start rfl hr'
  refine ⟨fun seen => alone seen hr, fun seen acts' rs' w' hr' he => ?_,
    (sound_start.run_begun hr).1, (sound_start.run hr).regular,
    fun hu _ _ => run_call (sound_start.run hr).keyed hu⟩
  obtain ⟨rs₀, w₀, h₀, hrs, hv⟩ := alone seen hr
  obtain ⟨rs₁, w₁, h₁, hrs₁, hv₁⟩ := alone seen hr'
  rw [he, h₀] at h₁
  cases h₁
  exact ⟨hrs₁.symm.trans hrs, hv₁.symm.trans hv⟩

def dropping : List (Act Bool) :=
  let src : CellSource Unit :=
    ⟨fun s => (.ok ⟨⟨0x11⟩, .origin, none, 99, .zero⟩, s), fun _ _ => true⟩
  let d := Draw.numbered 0
  [.op (.watch false 4 .default .none), .op (.watch true 4 .default .none),
    .op (.call (.create src () 1 [d])), .turn false .dropReceiver, .tell, .turn false .forward,
    .turn false .forward, .turn true .forward, .turn true .forward, .turn true .receive,
    .op (.call (.move (fun _ => true) d.imsi ⟨0x12⟩ .zero)), .tell, .op (.unwatch false)]

theorem dropped_receiver_apart :
    ∃ rs w, (start Bool).run dropping = some (rs, w) ∧ begun rs = [⟨0⟩, ⟨1⟩] ∧ (begun rs).Nodup ∧
      rs.getLast? = some (some false, .unwatched false) ∧ w.population.watcherCount = 1 ∧
      w.Regular ∧ ∃ rs₀ w₀, (start Bool).run (dropping.filter (·.shows id)) = some (rs₀, w₀) ∧
        shown id rs₀ = shown id rs ∧ w₀.view id = w.view id := by
  have hsee : ((start Bool).run dropping).map (fun x =>
      (begun x.1, x.1.getLast?, x.2.population.watcherCount)) =
        some ([⟨0⟩, ⟨1⟩], some (some false, .unwatched false), 1) := rfl
  obtain ⟨⟨rs, w⟩, hr, he⟩ := Option.map_eq_some_iff.1 hsee
  simp only [Prod.mk.injEq] at he
  obtain ⟨hb, hl, hc⟩ := he
  obtain ⟨hseen, -, hn, hw, -⟩ := watchers_apart hr
  exact ⟨rs, w, hr, hb, hn, hl, hc, hw, hseen id⟩

end

end Watching

end E2Node
