/-
**The UIDs that are excluded on Android.**

A UID belongs to the user `uid / 100000`. The ranges of the users that are included are complemented
up to a UID of user 9; ranges of the complement that have a UID of an included package, or lie
within the included UIDs, are dropped as wholes; and the excluded UIDs are added.

* `complementRanges_eq` — the complement, as the gaps between the users.
* `build_panics` — the range of a user of at least 42949 overflows.
* `holds_build` — where none does, the UIDs that are excluded, as they are.
* **`buildAndroidUidExclusions_iff`** — when they are those that should be.
-/

import RsTun.Android.Packages
import RsTun.Config.ExcludedUids
import RsTun.Library.Gaps

namespace RsTun.Android

open Library Library.Intervals Library.Gaps

/-- `ANDROID_USER_RANGE`. -/
def androidUserRange : UInt32 := 100000

/-- `user_end`. -/
def userEnd : UInt32 := 999999

/-- `include_users`, with the names in `/data/user` that could be read. -/
def includeUsers (std : StdText) (cfg : TunInboundConfig) (dataUser : List String) : List UInt32 :=
  let configured := cfg.includeAndroidUser.filterMap fun user =>
    if user < 0 then none else some user.toUInt32
  if configured ≠ [] then configured
  else
    let discovered := dataUser.filterMap std.parseU32
    if discovered ≠ [] then discovered else [0]

/-- `user * ANDROID_USER_RANGE`. -/
def timesUserRange (user : UInt32) : Checked Empty UInt32 :=
  if user.toNat * androidUserRange.toNat < 2 ^ 32 then .ok (user * androidUserRange)
  else .error .panicked

/-- `(u * ANDROID_USER_RANGE, (u + 1) * ANDROID_USER_RANGE - 1)`. -/
def userRange (user : UInt32) : Checked Empty UidRange := do
  let start ← timesUserRange user
  let next ← timesUserRange (← uidSucc user)
  return (start, ← uidPred next)

/-- What `complement_ranges` pushes behind its loop. -/
def pushLast (cur stop : UInt32) : List UidRange := if cur ≤ stop then [(cur, stop)] else []

/-- The loop of `complement_ranges`, with what is pushed behind it. -/
def complementLoop (stop : UInt32) : UInt32 → List UidRange → Checked Empty (List UidRange)
  | cur, [] => .ok (pushLast cur stop)
  | cur, (lo, hi) :: rest => do
    let before ← pushIf (cur < lo) ((uidPred lo).map fun last => (cur, last))
    let next := saturatingSucc hi
    -- `if cur > end { break; }`
    let behind ← if next > stop then .ok (pushLast next stop) else complementLoop stop next rest
    return before ++ behind

/-- `complement_ranges`. -/
def complementRanges (ranges : List UidRange) (start stop : UInt32) :
    Checked Empty (List UidRange) :=
  if ranges = [] then .ok [(start, stop)] else complementLoop stop start ranges

/-- `resolve_packages`. -/
def resolvePackages (pkgMgr : PackageMaps) (packages : List String) : List UInt32 :=
  packages.filterMap pkgMgr.idByPackage

/-- `build_android_uid_exclusions`. -/
def buildAndroidUidExclusions (std : StdText) (cfg : TunInboundConfig) (dataUser : List String)
    (pkgMgr : PackageMaps) : Checked Empty (List UidRange) := do
  let includeRanges ← (includeUsers std cfg dataUser).mapM userRange
  let excluded ← complementRanges (sortRanges includeRanges) 0 userEnd
  let includeUids := resolvePackages pkgMgr cfg.includePackage
  let excludeUids := resolvePackages pkgMgr cfg.excludePackage
  let excluded := includeUids.foldl (fun excluded uid =>
    excluded.filter fun range => !(range.1 ≤ uid && uid ≤ range.2)) excluded
  let excluded := excluded ++ excludeUids.map fun uid => (uid, uid)
  let incUids := mergeUidListAndRanges std cfg.includeUid cfg.includeUidRange
  let excUids := mergeUidListAndRanges std cfg.excludeUid cfg.excludeUidRange
  let excluded := incUids.foldl (fun excluded range =>
    excluded.filter fun other => !(range.1 ≤ other.1 && range.2 ≥ other.2)) excluded
  return mergeRanges (excluded ++ excUids)

/-! ### The ranges of the users -/

/-- The range of a user, where nothing overflows. -/
def block (user : UInt32) : UidRange :=
  (user * androidUserRange, (user + 1) * androidUserRange - 1)

/-- The UIDs of consecutive users, as an interval of numbers. -/
def userSpan (gap : Nat × Nat) : Nat × Nat := (gap.1 * 100000, gap.2 * 100000 + 99999)

theorem toNat_timesUserRange {user : UInt32} (fits : user.toNat * 100000 < 2 ^ 32) :
    (user * androidUserRange).toNat = user.toNat * 100000 := by
  rw [UInt32.toNat_mul, show androidUserRange.toNat = 100000 from rfl, Nat.mod_eq_of_lt fits]

theorem toNat_nextUser {user : UInt32} (small : user.toNat < 42950) :
    (user + 1).toNat = user.toNat + 1 := by
  rw [UInt32.toNat_add, UInt32.toNat_one, Nat.mod_eq_of_lt (by omega)]

theorem span_block {user : UInt32} (small : user.toNat < 42949) :
    span (block user) = userSpan (user.toNat, user.toNat) := by
  have succ := toNat_nextUser (Nat.lt_succ_of_lt small)
  have next := @toNat_timesUserRange (user + 1) (by omega)
  have positive : (1 : UInt32) ≤ (user + 1) * androidUserRange := by
    rw [UInt32.le_iff_toNat_le, UInt32.toNat_one]
    omega
  refine Prod.ext (toNat_timesUserRange (by omega)) ?_
  show ((user + 1) * androidUserRange - 1).toNat = user.toNat * 100000 + 99999
  rw [UInt32.toNat_sub_of_le _ _ positive, UInt32.toNat_one]
  omega

theorem guarded_timesUserRange (user : UInt32) : Checked.Guarded (timesUserRange user)
    (user.toNat * 100000 < 2 ^ 32) (user * androidUserRange) :=
  ⟨fun fits => if_pos fits, fun large => if_neg large⟩

/-- **The range of a user** is computed without overflow exactly for users below 42949. -/
theorem guarded_userRange (user : UInt32) :
    Checked.Guarded (userRange user) (user.toNat < 42949) (block user) := by
  have succ : Checked.Guarded (uidSucc user) (user ≠ 0xffffffff) (user + 1) :=
    ⟨fun fits => if_neg fits, fun last => if_pos (not_not.mp last)⟩
  have pred : ∀ uid, Checked.Guarded (uidPred uid) (uid ≠ 0) (uid - 1) :=
    fun uid => ⟨fun fits => if_neg fits, fun zero => if_pos (not_not.mp zero)⟩
  have last : Checked.Guarded (Except.bind (uidPred ((user + 1) * androidUserRange)) fun stop =>
      .ok (user * androidUserRange, stop)) _ (block user) :=
    (pred _).bind fun _ => Checked.Guarded.of_ok rfl
  refine Checked.Guarded.congr ((guarded_timesUserRange user).bind fun _ => succ.bind fun _ =>
    (guarded_timesUserRange (user + 1)).bind fun _ => last) ?_
  constructor
  · rintro ⟨fits, -, next, -, -⟩
    rw [toNat_nextUser (by omega)] at next
    omega
  · intro small
    have next := toNat_nextUser (Nat.lt_succ_of_lt small)
    refine ⟨by omega, fun last => ?_, by omega, fun zero => ?_, trivial⟩
    · rw [last] at small
      exact absurd small (by decide)
    · have product := @toNat_timesUserRange (user + 1) (by omega)
      rw [zero, UInt32.toNat_zero] at product
      omega

/-! ### The complement -/

/-- **The loop of `complement_ranges`** on ranges of users in order, from the first UID of a user
on: it finds the gaps between the users, up to user 9. -/
theorem complementLoop_eq {cur : UInt32} {first : Nat} {ranges : List UidRange} {users : List Nat}
    (start : cur.toNat = first * 100000) (blocks : ranges.map span = users.map fun user =>
      userSpan (user, user)) (small : ∀ user ∈ users, user < 42949) :
    ∃ result, complementLoop userEnd cur ranges = .ok result
      ∧ result.map span = (gaps 9 first users).map userSpan := by
  have stop : userEnd.toNat = 999999 := rfl
  induction ranges generalizing cur first users with
  | nil =>
      obtain rfl := List.map_eq_nil_iff.mp blocks.symm
      refine ⟨_, rfl, ?_⟩
      unfold pushLast gaps
      by_cases low : first ≤ 9
      · rw [if_pos low, if_pos (by rw [UInt32.le_iff_toNat_le]; omega)]
        simp only [List.map_cons, List.map_nil, span, userSpan, start, stop]
      · rw [if_neg low, if_neg (by rw [UInt32.le_iff_toNat_le]; omega)]
        rfl
  | cons range rest ih =>
      obtain ⟨lo, hi⟩ := range
      cases users with
      | nil => cases blocks
      | cons user users =>
          rw [List.map_cons, List.map_cons] at blocks
          obtain ⟨here, behind⟩ := List.cons.inj blocks
          have low : lo.toNat = user * 100000 := congrArg Prod.fst here
          have high : hi.toNat = user * 100000 + 99999 := congrArg Prod.snd here
          have bound := small user List.mem_cons_self
          have next : (saturatingSucc hi).toNat = (user + 1) * 100000 := by
            rw [toNat_saturatingSucc]
            omega
          have before : pushIf (cur < lo) ((uidPred lo).map fun last => (cur, last))
              = .ok (if cur < lo then [(cur, lo - 1)] else []) :=
            pushIf_eq_ok fun front => by rw [uidPred_eq_ok front, Except.map]
          have front : (if cur < lo then [(cur, lo - 1)] else []).map span
              = (if first < user then [(first, user - 1)] else []).map userSpan := by
            by_cases room : first < user
            · have less : cur < lo := by
                rw [UInt32.lt_iff_toNat_lt]
                omega
              rw [if_pos room, if_pos less]
              refine congrArg (fun span => [span]) (Prod.ext start ?_)
              show (lo - 1).toNat = (user - 1) * 100000 + 99999
              rw [toNat_pred less]
              omega
            · rw [if_neg room, if_neg (by rw [UInt32.lt_iff_toNat_lt]; omega)]
              rfl
          obtain ⟨result, found, same⟩ := ih next behind fun other member =>
            small other (List.mem_cons_of_mem _ member)
          unfold complementLoop gaps
          rw [before]
          by_cases more : user < 9
          · have going : ¬ saturatingSucc hi > userEnd := by
              rw [gt_iff_lt, UInt32.lt_iff_toNat_lt]
              omega
            refine ⟨(if cur < lo then [(cur, lo - 1)] else []) ++ result, ?_, ?_⟩
            · simp only [bind, Checked.ok_bind, if_neg going, found]
              rfl
            · rw [if_pos more, List.map_append, List.map_append, same, front]
          · have stopped : saturatingSucc hi > userEnd := by
              rw [gt_iff_lt, UInt32.lt_iff_toNat_lt]
              omega
            have none : pushLast (saturatingSucc hi) userEnd = [] :=
              if_neg (UInt32.not_le.mpr stopped)
            refine ⟨(if cur < lo then [(cur, lo - 1)] else []) ++ [], ?_, ?_⟩
            · simp only [bind, Checked.ok_bind, if_pos stopped, none]
              rfl
            · rw [if_neg more, List.append_nil, List.append_nil, front]

/-- The user of a UID. -/
def androidUser (uid : UInt32) : Nat := uid.toNat / 100000

/-- A UID lies in a range. -/
def Within (range : UidRange) (uid : UInt32) : Prop := range.1 ≤ uid ∧ uid ≤ range.2

theorem within_iff {range : UidRange} {gap : Nat × Nat} (same : span range = userSpan gap)
    {uid : UInt32} : Within range uid ↔ Inside gap (androidUser uid) := by
  have low : range.1.toNat = gap.1 * 100000 := congrArg Prod.fst same
  have high : range.2.toNat = gap.2 * 100000 + 99999 := congrArg Prod.snd same
  unfold Within Inside androidUser
  rw [UInt32.le_iff_toNat_le, UInt32.le_iff_toNat_le]
  omega

/-- **Ranges are the gaps between users**: they have the UIDs of the free users, and each has those
beside any of its UIDs. -/
structure UserGaps (users : List Nat) (ranges : List UidRange) : Prop where
  holds : ∀ uid, Holds ranges uid ↔ Free 9 users (androidUser uid)
  within : ∀ range ∈ ranges, ∀ uid, Within range uid → ∀ other,
    Within range other
      ↔ Free 9 users (androidUser other) ∧ Beside users (androidUser uid) (androidUser other)

theorem userGaps_of_gaps {users : List Nat} {ranges : List UidRange}
    (ordered : users.Pairwise (· ≤ ·)) (same : ranges.map span = (gaps 9 0 users).map userSpan) :
    UserGaps users ranges := by
  have near : ∀ user ∈ users, 0 ≤ user + 1 := fun _ _ => Nat.zero_le _
  have gapOf : ∀ range ∈ ranges, ∃ gap ∈ gaps 9 0 users, span range = userSpan gap := by
    intro range member
    have found := List.mem_map_of_mem (f := span) member
    rw [same] at found
    obtain ⟨gap, present, eq⟩ := List.mem_map.mp found
    exact ⟨gap, present, eq.symm⟩
  have rangeOf : ∀ gap ∈ gaps 9 0 users, ∃ range ∈ ranges, span range = userSpan gap := by
    intro gap member
    have found := List.mem_map_of_mem (f := userSpan) member
    rw [← same] at found
    exact List.mem_map.mp found
  have free : ∀ place, (∃ gap ∈ gaps 9 0 users, Inside gap place) ↔ Free 9 users place :=
    fun place => (mem_gaps_iff ordered (Nat.zero_le _) near).trans (and_iff_right (Nat.zero_le _))
  refine ⟨fun uid => ?_, fun range member uid inside other => ?_⟩
  · rw [← free]
    constructor
    · rintro ⟨range, member, inside⟩
      obtain ⟨gap, present, eq⟩ := gapOf range member
      exact ⟨gap, present, (within_iff eq).mp inside⟩
    · rintro ⟨gap, present, inside⟩
      obtain ⟨range, member, eq⟩ := rangeOf gap present
      exact ⟨range, member, (within_iff eq).mpr inside⟩
  · obtain ⟨gap, present, eq⟩ := gapOf range member
    rw [within_iff eq, mem_gap_iff ordered (Nat.zero_le _) near present ((within_iff eq).mp inside),
      and_iff_right (Nat.zero_le _)]

/-- **The complement** of the ranges of some users. -/
theorem complementRanges_eq {users : List UInt32} (some : users ≠ [])
    (small : ∀ user ∈ users, user.toNat < 42949) :
    ∃ ranges, complementRanges (sortRanges (users.map block)) 0 userEnd = .ok ranges
      ∧ UserGaps (users.map UInt32.toNat) ranges := by
  have among : ∀ range, range ∈ sortRanges (users.map block)
      ↔ ∃ user ∈ users, block user = range := fun range => mem_sortRanges.trans List.mem_map
  have first : ∀ user ∈ users, (block user).1.toNat / 100000 = user.toNat := by
    intro user member
    have start : (block user).1.toNat = user.toNat * 100000 :=
      congrArg Prod.fst (span_block (small user member))
    omega
  have present : sortRanges (users.map block) ≠ [] := by
    obtain ⟨user, member⟩ := List.exists_mem_of_ne_nil _ some
    exact List.ne_nil_of_mem ((among _).mpr ⟨user, member, rfl⟩)
  have ordered := @ordered_sortRanges (users.map block)
  generalize sortRanges (users.map block) = sorted at among present ordered
  -- the users of the sorted ranges
  have members : ∀ place, place ∈ sorted.map (fun range => range.1.toNat / 100000)
      ↔ place ∈ users.map UInt32.toNat := by
    intro place
    simp only [List.mem_map]
    constructor
    · rintro ⟨range, member, rfl⟩
      obtain ⟨user, present, rfl⟩ := (among range).mp member
      exact ⟨user, present, (first user present).symm⟩
    · rintro ⟨user, present, rfl⟩
      exact ⟨block user, (among _).mpr ⟨user, present, rfl⟩, first user present⟩
  have blocks : sorted.map span = (sorted.map fun range => range.1.toNat / 100000).map
      fun user => userSpan (user, user) := by
    rw [List.map_map]
    refine List.map_congr_left fun range member => ?_
    obtain ⟨user, present, rfl⟩ := (among range).mp member
    rw [span_block (small user present), Function.comp_apply, first user present]
  have small' : ∀ place ∈ sorted.map (fun range => range.1.toNat / 100000), place < 42949 := by
    intro place member
    obtain ⟨user, present, rfl⟩ := List.mem_map.mp ((members place).mp member)
    exact small user present
  obtain ⟨ranges, found, same⟩ := @complementLoop_eq 0 0 sorted _ rfl blocks small'
  obtain ⟨holds, within⟩ := userGaps_of_gaps (List.pairwise_map.mpr
    (ordered.imp fun before => Nat.div_le_div_right before)) same
  refine ⟨ranges, (if_neg present).trans found, fun uid => ?_,
    fun range member uid inside other => ?_⟩
  · rw [holds, free_congr members]
  · rw [within range member uid inside, free_congr members, beside_congr members]

/-! ### What is left of the complement -/

/-- A closure of `retain`. -/
theorem keeps_iff {low high : Prop} [Decidable low] [Decidable high] :
    (!(decide low && decide high)) = true ↔ ¬ (low ∧ high) := by
  simp only [Bool.not_eq_true', Bool.and_eq_false_iff, decide_eq_false_iff_not, not_and_or]

/-- The entries that every one of several filters keeps. -/
theorem mem_foldl_filter {Item Filter : Type} {keeps : Filter → Item → Bool}
    {filters : List Filter} {items : List Item} {item : Item} :
    item ∈ filters.foldl (fun items filter => items.filter (keeps filter)) items
      ↔ item ∈ items ∧ ∀ filter ∈ filters, keeps filter item = true := by
  induction filters generalizing items with
  | nil => simp
  | cons filter rest ih =>
      rw [List.foldl_cons, ih, List.mem_filter, List.forall_mem_cons, and_assoc]

/-- A range within the included UIDs. -/
theorem within_merged_iff {std : StdText} {uids : List UInt32} {texts : List String}
    {range : UidRange} (valid : range.1 ≤ range.2) :
    (∃ merged ∈ mergeUidListAndRanges std uids texts, merged.1 ≤ range.1 ∧ range.2 ≤ merged.2)
      ↔ ∀ uid, Within range uid → Holds (uidRanges std uids texts) uid := by
  have separated := @separated_mergeUidListAndRanges std uids texts
  rw [UInt32.le_iff_toNat_le] at valid
  have among : (∃ merged ∈ mergeUidListAndRanges std uids texts,
        merged.1 ≤ range.1 ∧ range.2 ≤ merged.2)
      ↔ ∃ interval ∈ (mergeUidListAndRanges std uids texts).map span,
        interval.1 ≤ range.1.toNat ∧ range.2.toNat ≤ interval.2 := by
    simp only [List.mem_map, exists_exists_and_eq_and, span, UInt32.le_iff_toNat_le]
  rw [among, ← covers_interval_iff separated valid]
  simp only [covers_map_span, holds_mergeUidListAndRanges]
  constructor
  · intro points uid inside
    obtain ⟨same, number, holds⟩ := points uid.toNat (UInt32.le_iff_toNat_le.mp inside.1)
      (UInt32.le_iff_toNat_le.mp inside.2)
    rwa [← UInt32.toNat_inj.mp number]
  · intro holds point low high
    have small : point < 2 ^ 32 := lt_of_le_of_lt high range.2.toNat_lt
    have number : (UInt32.ofNat point).toNat = point := UInt32.toNat_ofNat_of_lt' small
    exact ⟨.ofNat point, number, holds _ ⟨by rwa [UInt32.le_iff_toNat_le, number],
      by rwa [UInt32.le_iff_toNat_le, number]⟩⟩

/-- What a configuration selects. -/
structure Selection where
  users : List Nat
  includePackage : List UInt32
  excludePackage : List UInt32
  includeUid : UInt32 → Prop
  excludeUid : UInt32 → Prop

namespace Selection

variable (selection : Selection)

/-- A UID and others in one gap between the users that are included. -/
def SameGap (uid other : UInt32) : Prop :=
  Free 9 selection.users (androidUser other)
    ∧ Beside selection.users (androidUser uid) (androidUser other)

/-- The UID is in a gap that stays: no UID of it is that of an included package, and one of them is
not among the included UIDs. -/
def Stays (uid : UInt32) : Prop :=
  Free 9 selection.users (androidUser uid)
    ∧ (∀ other ∈ selection.includePackage, ¬ selection.SameGap uid other)
    ∧ ∃ other, selection.SameGap uid other ∧ ¬ selection.includeUid other

/-- **The UIDs that are excluded.** -/
def Excluded (uid : UInt32) : Prop :=
  (selection.Stays uid ∨ uid ∈ selection.excludePackage ∧ ¬ selection.includeUid uid)
    ∨ selection.excludeUid uid

/-- **The UIDs that should be**: those of other users that are not included in another way, and
those that are excluded. -/
def Due (uid : UInt32) : Prop :=
  androidUser uid ∉ selection.users ∧ uid ∉ selection.includePackage
      ∧ ¬ selection.includeUid uid
    ∨ uid ∈ selection.excludePackage ∨ selection.excludeUid uid

end Selection

section Build

variable (std : StdText) (cfg : TunInboundConfig) (dataUser : List String) (pkgMgr : PackageMaps)

/-- The selection of a configuration. -/
def selectionOf : Selection where
  users := (includeUsers std cfg dataUser).map UInt32.toNat
  includePackage := resolvePackages pkgMgr cfg.includePackage
  excludePackage := resolvePackages pkgMgr cfg.excludePackage
  includeUid := Holds (uidRanges std cfg.includeUid cfg.includeUidRange)
  excludeUid := Holds (uidRanges std cfg.excludeUid cfg.excludeUidRange)

variable {std cfg dataUser pkgMgr}

theorem includeUsers_ne_nil : includeUsers std cfg dataUser ≠ [] := by
  unfold includeUsers
  dsimp only
  split
  case isTrue some => exact some
  case isFalse =>
    split
    case isTrue some => exact some
    case isFalse => exact List.cons_ne_nil _ _

/-- A user whose range overflows makes the build panic. -/
theorem build_panics (large : ∃ user ∈ includeUsers std cfg dataUser, 42949 ≤ user.toNat) :
    buildAndroidUidExclusions std cfg dataUser pkgMgr = .error .panicked := by
  have panics := (Checked.Guarded.mapM guarded_userRange (includeUsers std cfg dataUser)).panics
    fun small => by
      obtain ⟨user, member, bound⟩ := large
      exact absurd (small user member) (Nat.not_lt.mpr bound)
  unfold buildAndroidUidExclusions
  rw [panics]
  rfl

/-- **The UIDs of the result**, where nothing overflows. -/
theorem holds_build (small : ∀ user ∈ includeUsers std cfg dataUser, user.toNat < 42949) :
    ∃ ranges, buildAndroidUidExclusions std cfg dataUser pkgMgr = .ok ranges
      ∧ ∀ uid, Holds ranges uid ↔ (selectionOf std cfg dataUser pkgMgr).Excluded uid := by
  have returns := (Checked.Guarded.mapM guarded_userRange (includeUsers std cfg dataUser)).returns
    small
  obtain ⟨excluded, found, holds, within⟩ := complementRanges_eq includeUsers_ne_nil small
  unfold buildAndroidUidExclusions
  simp only [bind, returns, Checked.ok_bind, found]
  refine ⟨_, rfl, fun uid => ?_⟩
  rw [holds_mergeRanges, holds_append, holds_mergeUidListAndRanges]
  refine or_congr_left ?_
  constructor
  · rintro ⟨range, member, inside⟩
    obtain ⟨among, kept⟩ := mem_foldl_filter.mp member
    have apart : ¬ ∀ other, Within range other
        → Holds (uidRanges std cfg.includeUid cfg.includeUidRange) other := by
      rw [← within_merged_iff (UInt32.le_trans inside.1 inside.2)]
      rintro ⟨merged, present, within⟩
      exact keeps_iff.mp (kept merged present) within
    obtain gap | single := List.mem_append.mp among
    · obtain ⟨present, free⟩ := mem_foldl_filter.mp gap
      refine Or.inl ⟨(holds uid).mp ⟨range, present, inside⟩, fun other package same => ?_, ?_⟩
      · exact keeps_iff.mp (free other package) ((within range present uid inside other).mpr same)
      · obtain ⟨other, outside⟩ := not_forall.mp apart
        obtain ⟨inside', outside⟩ := Classical.not_imp.mp outside
        exact ⟨other, (within range present uid inside other).mp inside', outside⟩
    · obtain ⟨package, listed, rfl⟩ := List.mem_map.mp single
      obtain rfl := UInt32.le_antisymm inside.1 inside.2
      refine Or.inr ⟨listed, fun included => apart fun other inside' => ?_⟩
      obtain rfl := UInt32.le_antisymm inside'.1 inside'.2
      exact included
  · rintro (⟨free, packages, other, same, outside⟩ | ⟨package, outside⟩)
    · obtain ⟨range, present, inside⟩ := (holds uid).mpr free
      refine ⟨range, mem_foldl_filter.mpr ⟨List.mem_append_left _
        (mem_foldl_filter.mpr ⟨present, fun package member => keeps_iff.mpr fun inside' => ?_⟩),
        fun merged member => keeps_iff.mpr fun around => ?_⟩, inside⟩
      · exact packages package member ((within range present uid inside package).mp inside')
      · exact outside ((within_merged_iff (UInt32.le_trans inside.1 inside.2)).mp
          ⟨merged, member, around⟩ other ((within range present uid inside other).mpr same))
    · refine ⟨(uid, uid), mem_foldl_filter.mpr ⟨List.mem_append_right _
        (List.mem_map.mpr ⟨uid, package, rfl⟩),
        fun merged member => keeps_iff.mpr fun around => ?_⟩,
        UInt32.le_refl _, UInt32.le_refl _⟩
      exact outside ((@within_merged_iff _ _ _ (uid, uid) (UInt32.le_refl _)).mp
        ⟨merged, member, around⟩ uid ⟨UInt32.le_refl _, UInt32.le_refl _⟩)

end Build

/-! ### The UIDs that should be excluded -/

namespace Selection

variable (selection : Selection)

/-- **A UID is judged as it should be**, unless it is excluded by its UID anyway. -/
structure Judged (uid : UInt32) : Prop where
  /-- a UID of another user in no list: its gap is found, and has no included package -/
  other : androidUser uid ∉ selection.users → uid ∉ selection.includePackage →
    ¬ selection.includeUid uid → uid ∉ selection.excludePackage → ¬ selection.excludeUid uid →
    Free 9 selection.users (androidUser uid)
      ∧ ∀ package ∈ selection.includePackage, ¬ selection.SameGap uid package
  /-- a UID of another user among the included ones only: its gap does not stay -/
  included : androidUser uid ∉ selection.users → uid ∉ selection.includePackage →
    selection.includeUid uid → uid ∉ selection.excludePackage → ¬ selection.excludeUid uid →
    ¬ selection.Stays uid
  /-- a UID of an excluded package among the included ones: its gap stays -/
  both : selection.includeUid uid → uid ∈ selection.excludePackage → ¬ selection.excludeUid uid →
    selection.Stays uid

variable {selection} {uid : UInt32}

theorem Stays.not_includePackage (stays : selection.Stays uid) : uid ∉ selection.includePackage :=
  fun package => stays.2.1 uid package ⟨stays.1, Beside.refl _ _⟩

theorem excluded_iff_due_iff : (selection.Excluded uid ↔ selection.Due uid)
    ↔ selection.Judged uid := by
  unfold Excluded Due
  constructor
  · intro same
    refine ⟨fun foreign package included excluded free => ?_,
      fun foreign package included excluded free stays => ?_, fun included excluded free => ?_⟩
    · obtain (stays | both) | listed := same.mpr (Or.inl ⟨foreign, package, included⟩)
      · exact ⟨stays.1, stays.2.1⟩
      · exact absurd both.1 excluded
      · exact absurd listed free
    · obtain due | listed | listed := same.mp (Or.inl (Or.inl stays))
      · exact due.2.2 included
      · exact excluded listed
      · exact free listed
    · obtain (stays | both) | listed := same.mpr (Or.inr (Or.inl excluded))
      · exact stays
      · exact absurd included both.2
      · exact absurd listed free
  · intro judged
    constructor
    · rintro ((stays | both) | listed)
      · by_cases due : uid ∈ selection.excludePackage ∨ selection.excludeUid uid
        · exact Or.inr due
        · obtain ⟨excluded, free⟩ := not_or.mp due
          exact Or.inl ⟨stays.1.1, stays.not_includePackage, fun included =>
            judged.included stays.1.1 stays.not_includePackage included excluded free stays⟩
      · exact Or.inr (Or.inl both.1)
      · exact Or.inr (Or.inr listed)
    · by_cases listed : selection.excludeUid uid
      · exact fun _ => Or.inr listed
      · rintro (⟨foreign, package, included⟩ | excluded | listed)
        · refine Or.inl ?_
          by_cases excluded : uid ∈ selection.excludePackage
          · exact Or.inr ⟨excluded, included⟩
          · obtain ⟨free, packages⟩ := judged.other foreign package included excluded listed
            exact Or.inl ⟨free, packages, uid, ⟨free, Beside.refl _ _⟩, included⟩
        · refine Or.inl ?_
          by_cases included : selection.includeUid uid
          · exact Or.inl (judged.both included excluded listed)
          · exact Or.inr ⟨excluded, included⟩
        · exact Or.inr listed

end Selection

/-- A configuration without what it includes beside users. -/
def withoutIncluded (cfg : TunInboundConfig) : TunInboundConfig :=
  { cfg with includePackage := [], includeUid := [], includeUidRange := [] }

/-- **What is asked of the build**: nothing overflows; the UIDs that should be excluded are, and no
others; and a UID that is not included is excluded if it would be without the included ones. -/
structure ExcludesDue (std : StdText) (cfg : TunInboundConfig) (dataUser : List String)
    (pkgMgr : PackageMaps) : Prop where
  exact : ∃ ranges, buildAndroidUidExclusions std cfg dataUser pkgMgr = .ok ranges
    ∧ ∀ uid, Holds ranges uid ↔ (selectionOf std cfg dataUser pkgMgr).Due uid
  kept : ∀ ranges bare, buildAndroidUidExclusions std cfg dataUser pkgMgr = .ok ranges →
    buildAndroidUidExclusions std (withoutIncluded cfg) dataUser pkgMgr = .ok bare →
    ∀ uid, uid ∉ (selectionOf std cfg dataUser pkgMgr).includePackage →
      ¬ (selectionOf std cfg dataUser pkgMgr).includeUid uid → Holds bare uid → Holds ranges uid

/-- **The exclusions of Android.** They are what is asked of them if and only if every user that is
included is below 42949, and every UID is judged as it should be. -/
theorem buildAndroidUidExclusions_iff (std : StdText) (cfg : TunInboundConfig)
    (dataUser : List String) (pkgMgr : PackageMaps) :
    ExcludesDue std cfg dataUser pkgMgr
      ↔ (∀ user ∈ includeUsers std cfg dataUser, user.toNat < 42949)
        ∧ ∀ uid, (selectionOf std cfg dataUser pkgMgr).Judged uid := by
  constructor
  · rintro ⟨⟨ranges, built, exact⟩, -⟩
    have small : ∀ user ∈ includeUsers std cfg dataUser, user.toNat < 42949 := by
      intro user member
      by_contra large
      rw [build_panics ⟨user, member, Nat.not_lt.mp large⟩] at built
      cases built
    obtain ⟨ranges', built', holds⟩ := @holds_build std cfg dataUser pkgMgr small
    cases built.symm.trans built'
    exact ⟨small, fun uid => Selection.excluded_iff_due_iff.mp ((holds uid).symm.trans (exact uid))⟩
  · rintro ⟨small, judged⟩
    obtain ⟨ranges, built, holds⟩ := @holds_build std cfg dataUser pkgMgr small
    have due := fun uid => (holds uid).trans (Selection.excluded_iff_due_iff.mpr (judged uid))
    refine ⟨⟨ranges, built, due⟩, fun ranges' bare built' bareBuilt uid package included => ?_⟩
    cases built.symm.trans built'
    obtain ⟨bare', bareBuilt', bareHolds⟩ :=
      @holds_build std (withoutIncluded cfg) dataUser pkgMgr small
    cases bareBuilt.symm.trans bareBuilt'
    rw [bareHolds, due]
    rintro ((stays | both) | listed)
    · exact Or.inl ⟨stays.1.1, package, included⟩
    · exact Or.inr (Or.inl both.1)
    · exact Or.inr (Or.inr listed)

/-- Only the owner is included. -/
def ownerOnly : TunInboundConfig :=
  { TunInboundConfig.minimal "tun" [] with includeAndroidUser := [0] }

/-- The UIDs from user 10 on are excluded by hand. -/
theorem buildAndroidUidExclusions_iff_by_hand : ExcludesDue Standard.fromStr
    { ownerOnly with excludeUidRange := ["1000000:4294967295"] } [] noPackages := by
  have range : uidRanges Standard.fromStr [] ["1000000:4294967295"] = [(1000000, 4294967295)] := by
    decide
  have owner : includeUsers Standard.fromStr
      { ownerOnly with excludeUidRange := ["1000000:4294967295"] } [] = [0] := by decide
  refine (buildAndroidUidExclusions_iff _ _ _ _).mpr ⟨?_, fun uid => ⟨?_, ?_, ?_⟩⟩
  · rw [owner]
    exact List.forall_mem_singleton.mpr (by decide)
  · intro foreign _ _ _ listed
    refine ⟨⟨foreign, Or.inl ?_⟩, List.forall_mem_nil _⟩
    have outside : ¬ Holds [(1000000, 4294967295)] uid := range ▸ listed
    have bound := uid.toNat_lt
    rw [holds_singleton] at outside
    have low : ((1000000, 4294967295) : UidRange).1.toNat = 1000000 := rfl
    have high : ((1000000, 4294967295) : UidRange).2.toNat = 4294967295 := rfl
    unfold androidUser
    omega
  · intro _ _ included
    obtain ⟨range, member, -⟩ := included
    cases member
  · intro _ excluded
    cases excluded

/-- The app with UID 110123 is installed. -/
def oneApp : PackageMaps :=
  { noPackages with idByPackage := fun name => if name = "app" then some 110123 else none }

/-- **User 10 is not excluded**, although only the owner is included: the complement ends with
user 9. Including one app drops the whole complement, including its UID drops nothing, and a user
that is too large panics. -/
theorem user_ten_not_excluded :
    buildAndroidUidExclusions Standard.fromStr ownerOnly [] noPackages = .ok [(100000, 999999)]
      ∧ (selectionOf Standard.fromStr ownerOnly [] noPackages).Due 1010000
      ∧ ¬ ExcludesDue Standard.fromStr ownerOnly [] noPackages
      ∧ buildAndroidUidExclusions Standard.fromStr { ownerOnly with includePackage := ["app"] } []
        oneApp = .ok []
      ∧ buildAndroidUidExclusions Standard.fromStr { ownerOnly with includeUid := [110123] } []
        oneApp = .ok [(100000, 999999)]
      ∧ buildAndroidUidExclusions Standard.fromStr { ownerOnly with includeAndroidUser := [42949] }
        [] noPackages = .error .panicked := by
  have built : buildAndroidUidExclusions Standard.fromStr ownerOnly [] noPackages
      = .ok [(100000, 999999)] := by decide
  have due : (selectionOf Standard.fromStr ownerOnly [] noPackages).Due 1010000 := by
    refine Or.inl ⟨by decide, List.not_mem_nil, ?_⟩
    rintro ⟨range, member, -⟩
    cases member
  refine ⟨built, due, fun asked => ?_, by decide, by decide, by decide⟩
  obtain ⟨ranges, built', exact⟩ := asked.exact
  cases built.symm.trans built'
  exact absurd ((exact 1010000).mpr due) (by unfold Holds; decide)

end RsTun.Android
