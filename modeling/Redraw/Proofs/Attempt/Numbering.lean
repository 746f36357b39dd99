import Mathlib.Data.List.Nodup
import Redraw.Proofs.Attempt.Moves

/-!
# How attempts are numbered

The attempts of a chart carry the numbers one, two, three and so on in the order in which they begin,
whatever happens to the chart in between. The count is kept by the track while the chart has one and by
the retired number while it has none. Numbers have 64 bits, so the list says nothing of its own about
which attempts are different; `nth_inj` does, for as many as there are numbers.
-/

namespace Redraw

/-- The attempt that begins as the `n`th of its chart. -/
def AttemptId.nth (n : Nat) : AttemptId := ⟨.ofNat n⟩

/-- The first `n` attempts of a chart. -/
def firstAttempts (n : Nat) : List AttemptId := (List.range n).map fun k => .nth (k + 1)

/-- The attempts of a chart that begin in a history, the oldest first. -/
def begunFor (c : ChartId) (h : History) : List AttemptId := h.filterMap (·.begun? c)

/-- Numbers are counted on one by one. -/
theorem AttemptId.next_nth (n : Nat) : (nth n).next = nth (n + 1) := by
  simp [nth, next, UInt64.ofNat_add]

theorem AttemptId.toNat_nth {n : Nat} (fits : n < UInt64.size) : (nth n).raw.toNat = n :=
  UInt64.toNat_ofNat_of_lt' fits

/-- Numbers below the bound differ. -/
theorem AttemptId.nth_inj {m n : Nat} (left : m < UInt64.size) (right : n < UInt64.size)
    (same : nth m = nth n) : m = n := by
  rw [← toNat_nth left, ← toNat_nth right, same]

theorem firstAttempts_succ (n : Nat) : firstAttempts (n + 1) = firstAttempts n ++ [.nth (n + 1)] := by
  simp [firstAttempts, List.range_succ]

theorem mem_firstAttempts {n : Nat} {a : AttemptId} :
    a ∈ firstAttempts n ↔ ∃ k, k < n ∧ a = .nth (k + 1) := by
  simp only [firstAttempts, List.mem_map, List.mem_range]
  constructor
  · rintro ⟨k, bound, rfl⟩
    exact ⟨k, bound, rfl⟩
  · rintro ⟨k, bound, rfl⟩
    exact ⟨k, bound, rfl⟩

theorem getElem?_firstAttempts {n k : Nat} (bound : k < n) :
    (firstAttempts n)[k]? = some (.nth (k + 1)) := by
  simp [firstAttempts, bound]

/-- As long as the numbers last, none is given twice. -/
theorem nodup_firstAttempts {n : Nat} (fits : n < UInt64.size) : (firstAttempts n).Nodup := by
  unfold firstAttempts
  apply List.Nodup.map_on
  · intro j left k right same
    have left := List.mem_range.1 left
    have right := List.mem_range.1 right
    have := AttemptId.nth_inj (by omega) (by omega) same
    omega
  · exact List.nodup_range

/-- The first attempts of a chart are in the order of their numbers. -/
theorem pairwise_firstAttempts {n : Nat} (fits : n < UInt64.size) :
    (firstAttempts n).Pairwise fun a b => a.raw < b.raw := by
  unfold firstAttempts
  rw [List.pairwise_map]
  refine List.pairwise_lt_range.imp_of_mem fun {j k} left right less => ?_
  have left := List.mem_range.1 left
  have right := List.mem_range.1 right
  rw [UInt64.lt_iff_toNat_lt, AttemptId.toNat_nth (by omega), AttemptId.toNat_nth (by omega)]
  omega

theorem begunFor_snoc (c : ChartId) (h : History) (m : Moment) :
    begunFor c (h ++ [m]) = begunFor c h ++ (m.begun? c).toList := by
  unfold begunFor
  rw [List.filterMap_append]
  cases begun : m.begun? c <;> simp [begun]

theorem begunFor_append (c : ChartId) (h g : History) :
    begunFor c (h ++ g) = begunFor c h ++ begunFor c g :=
  List.filterMap_append

theorem begunFor_cons {c : ChartId} {h : History} {m : Moment} {a : AttemptId}
    (begun : m.begun? c = some a) : begunFor c (m :: h) = a :: begunFor c h :=
  List.filterMap_cons_some begun

theorem begunFor_rest {c : ChartId} {h : History} {m : Moment} (begun : m.begun? c = none) :
    begunFor c (h ++ [m]) = begunFor c h := by
  rw [begunFor_snoc, begun]
  exact List.append_nil _

namespace Dashboard

theorem track_of_known {d : Dashboard} {c : ChartId} {t : Track} (known : d.tracks.get? c = some t) :
    d.track c = t := by
  simp only [track, known]

/-- A chart without a track continues after its retired number, or starts afresh. -/
theorem track_of_unknown {d : Dashboard} {c : ChartId} (unknown : d.tracks.get? c = none) :
    d.track c = ((d.retired.get? c).map Track.resumingAfter).getD Track.fresh := by
  simp only [track, unknown]

/-- The newest attempt of a track is the one it was begun with, refused or not. -/
theorem latest_begunTrack (d : Dashboard) (i : RenderInput) :
    (d.begunTrack i).latest = (d.track i.chart).latest.next := by
  unfold begunTrack
  by_cases refused : i.refusal?.isSome = true
  · rw [if_pos refused]
    rfl
  · rw [if_neg refused]
    rfl

/-- The query result of an input is kept whether or not the engine refuses it. -/
theorem lastResult_begunTrack (d : Dashboard) (i : RenderInput) :
    (d.begunTrack i).lastResult = i.result := by
  unfold begunTrack
  cases i.refusal? <;> rfl

end Dashboard

/-- The dashboard counts the attempts of a chart. -/
structure Numbering (c : ChartId) (h : History) (d : Dashboard) : Prop where
  ids : begunFor c h = firstAttempts (begunFor c h).length
  latest : (d.track c).latest = .nth (begunFor c h).length
  none_iff : begunFor c h = [] ↔ d.tracks.get? c = none ∧ d.retired.get? c = none
  apart : d.tracks.get? c = none ∨ d.retired.get? c = none

namespace Numbering

variable {c : ChartId} {h : History} {d : Dashboard} {m : Moment}

/-- The attempts of a chart are numbered from one without gaps. -/
theorem mem_iff (n : Numbering c h d) {a : AttemptId} :
    a ∈ begunFor c h ↔ ∃ k, k < (begunFor c h).length ∧ a = .nth (k + 1) := by
  conv_lhs => rw [n.ids]
  exact mem_firstAttempts

/-- A chart has a track only once it has begun an attempt. -/
theorem length_pos (n : Numbering c h d) {t : Track} (known : d.tracks.get? c = some t) :
    0 < (begunFor c h).length := by
  rw [List.length_pos_iff, ne_eq, n.none_iff, known]
  exact fun none => nomatch none.1

/-- The number of the newest attempt says how many there were. -/
theorem latest_eq (n : Numbering c h d) {t : Track} (known : d.tracks.get? c = some t) :
    t.latest = .nth (begunFor c h).length := by
  rw [← Dashboard.track_of_known known]
  exact n.latest

/-- The newest attempt of a track is one of those that have begun. -/
theorem latest_mem (n : Numbering c h d) {t : Track} (known : d.tracks.get? c = some t) :
    t.latest ∈ begunFor c h := by
  have some := n.length_pos known
  refine n.mem_iff.2 ⟨(begunFor c h).length - 1, by omega, ?_⟩
  rw [n.latest_eq known, Nat.sub_add_cancel some]

/-- A retired number stands for a chart without a track, and counts its attempts. -/
theorem retired_eq (n : Numbering c h d) {a : AttemptId} (retired : d.retired.get? c = some a) :
    a = .nth (begunFor c h).length := by
  have unknown : d.tracks.get? c = none := n.apart.resolve_right (by simp [retired])
  have resumed : d.track c = Track.resumingAfter a := by
    rw [Dashboard.track_of_unknown unknown, retired]
    rfl
  rw [← n.latest, resumed]
  rfl

/-- The next attempt of a chart gets the next number. -/
theorem next_eq (n : Numbering c h d) {i : RenderInput} (chart : i.chart = c) :
    (d.nextRecord i).attempt = .nth ((begunFor c h).length + 1) := by
  rw [← AttemptId.next_nth, ← n.latest, ← chart]
  rfl

/-- The next attempt gets the next number. -/
theorem begunFor_next (n : Numbering c h m.before) {i : RenderInput} (chart : i.chart = c)
    (begun : m.begun? c = some (m.before.nextRecord i).attempt) :
    begunFor c (h ++ [m]) = begunFor c h ++ [.nth ((begunFor c h).length + 1)] := by
  rw [begunFor_snoc, begun, n.next_eq chart]
  rfl

/-- What a chart has begun so far is counted on where its track and its retired number are kept. -/
theorem keep (n : Numbering c h m.before) (begun : m.begun? c = none)
    (latest : (m.after.track c).latest = (m.before.track c).latest)
    (none_iff : m.after.tracks.get? c = none ∧ m.after.retired.get? c = none ↔
      m.before.tracks.get? c = none ∧ m.before.retired.get? c = none)
    (apart : m.after.tracks.get? c = none ∨ m.after.retired.get? c = none) :
    Numbering c (h ++ [m]) m.after := by
  have same : begunFor c (h ++ [m]) = begunFor c h := begunFor_rest begun
  constructor
  · rw [same]
    exact n.ids
  · rw [same, latest]
    exact n.latest
  · rw [same, none_iff]
    exact n.none_iff
  · exact apart

/-- Every moment keeps the numbering. -/
theorem step (n : Numbering c h m.before) : Numbering c (h ++ [m]) m.after := by
  cases m.move c with
  | begins i _ chart begun _ _ track retired =>
    have more := n.begunFor_next chart begun
    have length : (begunFor c (h ++ [m])).length = (begunFor c h).length + 1 := by
      rw [more, List.length_append]
      rfl
    constructor
    · rw [length, firstAttempts_succ, more, ← n.ids]
    · rw [length, Dashboard.track_of_known track, Dashboard.latest_begunTrack, chart, n.latest,
        AttemptId.next_nth]
    · rw [more, track]
      simp
    · exact .inr retired
  | settles t r e known _ begun _ _ track retired =>
    refine n.keep begun ?_ ?_ ?_
    · rw [Dashboard.track_of_known track, Dashboard.track_of_known known]
      rfl
    · rw [track, known]
      simp
    · rw [retired]
      exact .inr (n.apart.resolve_left (by simp [known]))
  | forgets t known begun _ _ track retired =>
    refine n.keep begun ?_ ?_ (.inl track)
    · rw [Dashboard.track_of_unknown track, Dashboard.track_of_known known, retired]
      rfl
    · rw [track, known, retired]
      simp
  | rests begun _ _ track retired =>
    refine n.keep begun ?_ ?_ ?_
    · unfold Dashboard.track
      rw [track, retired]
    · rw [track, retired]
    · rw [track, retired]
      exact n.apart

variable {registry : Registry} {namer : ClassNamer} {clock : Clock} {sink : TelemetrySink}
  {hooks : Hooks}

theorem fresh : Numbering c [] (Dashboard.new registry namer clock sink hooks) := by
  constructor
  · rfl
  · rfl
  · exact ⟨fun _ => ⟨rfl, rfl⟩, fun _ => rfl⟩
  · exact .inl rfl

/-- The attempts of every chart are numbered throughout every run. -/
theorem run (ops : List Operation) :
    Numbering c ((Dashboard.new registry namer clock sink hooks).history ops)
      ((Dashboard.new registry namer clock sink hooks).after ops) :=
  Dashboard.run_induction fresh (fun _ e op n => n.step (m := ⟨e, op⟩)) ops

/-- No number is given twice in a run that begins fewer attempts of a chart than there are numbers. -/
theorem nodup {ops rest : List Operation}
    (few : (begunFor c ((Dashboard.new registry namer clock sink hooks).history (ops ++ rest))).length
      < UInt64.size) :
    (begunFor c ((Dashboard.new registry namer clock sink hooks).history ops)).Nodup := by
  rw [Dashboard.history_append, begunFor_append, List.length_append] at few
  rw [(run ops).ids]
  exact nodup_firstAttempts (by omega)

end Numbering

/-- Take any run that begins fewer attempts of a chart than there are numbers. The `k`th attempt that it
begins for the chart carries the number `k`, so no number is given twice, however often the chart was
removed, forgotten and drawn again in between. The chart never has both a track and a retired number, and
whichever it has holds the number of attempts begun so far; it has neither only if there were none. -/
theorem attempts_numbered_across_removals (registry : Registry) (namer : ClassNamer) (clock : Clock)
    (sink : TelemetrySink) (hooks : Hooks) (ops : List Operation) (c : ChartId)
    (few : (begunFor c ((Dashboard.new registry namer clock sink hooks).history ops)).length
      < UInt64.size) :
    let d := (Dashboard.new registry namer clock sink hooks).after ops
    let ids := begunFor c ((Dashboard.new registry namer clock sink hooks).history ops)
    (∀ k, 1 ≤ k → k ≤ ids.length → ∃ a, ids[k - 1]? = some a ∧ a.raw.toNat = k) ∧ ids.Nodup ∧
    (d.tracks.get? c = none ∨ d.retired.get? c = none) ∧
    (∀ t, d.tracks.get? c = some t → t.latest.raw.toNat = ids.length) ∧
    (∀ a, d.retired.get? c = some a → a.raw.toNat = ids.length) ∧
    (d.tracks.get? c = none → d.retired.get? c = none → ids.length = 0) := by
  intro d ids
  replace few : ids.length < UInt64.size := few
  have n : Numbering c ((Dashboard.new registry namer clock sink hooks).history ops) d :=
    Numbering.run ops
  have inOrder : ids = firstAttempts ids.length := n.ids
  refine ⟨fun k first last => ?_, ?_, n.apart, fun t known => ?_, fun a retired => ?_, ?_⟩
  · have place : k - 1 < ids.length := by omega
    refine ⟨.nth k, ?_, AttemptId.toNat_nth (by omega)⟩
    rw [inOrder, getElem?_firstAttempts place, Nat.sub_add_cancel first]
  · rw [inOrder]
    exact nodup_firstAttempts few
  · rw [n.latest_eq known]
    exact AttemptId.toNat_nth few
  · rw [n.retired_eq retired]
    exact AttemptId.toNat_nth few
  · intro unknown unretired
    exact congrArg List.length (n.none_iff.2 ⟨unknown, unretired⟩)

/-- A chart that is drawn, removed, skipped, removed again and drawn again. -/
theorem attempts_numbered_after_skipped_return :
    let ops : List Operation :=
      [.begin (.plain ⟨7⟩), .remove ⟨7⟩, .submit (.plain ⟨7⟩), .remove ⟨7⟩, .begin (.plain ⟨7⟩)]
    let d := Dashboard.blank.after ops
    let ids := begunFor ⟨7⟩ (Dashboard.blank.history ops)
    ids.length < UInt64.size ∧ ids = [⟨1⟩, ⟨2⟩] ∧ ids.Nodup ∧
      ∀ t, d.tracks.get? ⟨7⟩ = some t → t.latest.raw.toNat = 2 := by
  intro ops d ids
  have few : ids.length < UInt64.size := by decide
  have numbered := attempts_numbered_across_removals ∅ .default { epoch := 0 } .recording {} ops ⟨7⟩ few
  exact ⟨few, by decide, numbered.2.1, numbered.2.2.2.1⟩

end Redraw
