/-
**Calls that return a value, fail with an error, or panic.**

`Checked Error Value` is the outcome of a call whose slices, indices and fixed-width sums are
checked: `failed` is an error that the caller receives, `panicked` an access out of range or a sum
that does not fit. Binding stops at the first fault.

* `bind_eq_ok` — a sequence returns a value exactly when both of its parts do.
* `range_eq_ok`, `copyFromSlice_eq_ok`, … — what an access within its bounds returns.
* `Guarded`, `Guarded.bind` — a call that returns a known value exactly under a condition, and
  panics otherwise; a sequence of such calls is one under both conditions.
-/

import RsTun.Library.Bytes

namespace RsTun.Library

universe u v w

/-- How a call ends without a value. -/
inductive Fault (Error : Type u) where
  | failed (error : Error)
  | panicked
  deriving DecidableEq

/-- A call that may fail or panic. -/
abbrev Checked (Error : Type u) (Value : Type v) := Except (Fault Error) Value

namespace Checked

variable {Error : Type u}

/-- `return Err(error)`. -/
def fail {Value : Type v} (error : Error) : Checked Error Value := .error (.failed error)

/-- `data[index]`. -/
def index (data : Bytes) (index : Nat) : Checked Error UInt8 :=
  if index < data.length then .ok (Bytes.byteAt data index) else .error .panicked

/-- `&data[start..stop]`. -/
def range (data : Bytes) (start stop : Nat) : Checked Error Bytes :=
  if start ≤ stop ∧ stop ≤ data.length then .ok (Bytes.slice data start (stop - start))
  else .error .panicked

/-- `data[start..stop].copy_from_slice(source)`. -/
def copyFromSlice (data : Bytes) (start stop : Nat) (source : Bytes) : Checked Error Bytes :=
  if start ≤ stop ∧ stop ≤ data.length ∧ source.length = stop - start then
    .ok (Bytes.overwrite data start source)
  else .error .panicked

/-- `u16::from_be_bytes([data[start], data[start + 1]])`. -/
def readU16 (data : Bytes) (start : Nat) : Checked Error Nat :=
  if start + 1 < data.length then .ok (Bytes.be16 data start) else .error .panicked

/-- `u32::from_be_bytes` of the four bytes at an offset. -/
def readU32 (data : Bytes) (start : Nat) : Checked Error Nat :=
  if start + 3 < data.length then .ok (Bytes.value (Bytes.slice data start 4))
  else .error .panicked

/-- An entry of a vector. -/
def entry {Entry : Type v} (entries : List Entry) (index : Nat) : Checked Error Entry :=
  match entries[index]? with
  | some found => .ok found
  | none => .error .panicked

/-- `entries.swap(first, second)`. -/
def swap {Entry : Type v} (entries : List Entry) (first second : Nat) :
    Checked Error (List Entry) := do
  let one ← entry entries first
  let other ← entry entries second
  return (entries.set first other).set second one

/-- A difference of unsigned numbers. -/
def minus (number less : Nat) : Checked Error Nat :=
  if less ≤ number then .ok (number - less) else .error .panicked

/-- The same call, with its error in another type. -/
def mapError {Error' : Type w} {Value : Type v} (convert : Error → Error') :
    Checked Error Value → Checked Error' Value
  | .ok value => .ok value
  | .error (.failed error) => .error (.failed (convert error))
  | .error .panicked => .error .panicked

/-- A result of unsigned arithmetic in `width` bits. -/
def inBits (width number : Nat) : Checked Error Nat :=
  if number < 2 ^ width then .ok number else .error .panicked

/-- `1 << amount` in `width` bits: the amount has to be less than the width. -/
def shiftOne (width amount : Nat) : Checked Error Nat :=
  if amount < width then .ok (1 <<< amount) else .error .panicked

/-- `number >> amount` in `width` bits: the amount has to be less than the width. -/
def shiftRight (width number amount : Nat) : Checked Error Nat :=
  if amount < width then .ok (number >>> amount) else .error .panicked

theorem bind_eq_ok {Value : Type v} {Next : Type w} {call : Checked Error Value}
    {next : Value → Checked Error Next} {result : Next} :
    Except.bind call next = .ok result ↔ ∃ value, call = .ok value ∧ next value = .ok result := by
  cases call with
  | error fault => exact ⟨nofun, fun ⟨_, impossible, _⟩ => nomatch impossible⟩
  | ok value =>
      refine ⟨fun done => ⟨value, rfl, done⟩, fun ⟨_, same, done⟩ => ?_⟩
      cases same
      exact done

/-- A sequence that ends without a check panics when its first part does. -/
theorem bind_pure_panics_iff {Value : Type v} {Next : Type w} {call : Checked Error Value}
    {next : Value → Next} :
    Except.bind call (fun value => .ok (next value)) = (.error .panicked : Checked Error Next)
      ↔ call = .error .panicked := by
  cases call with
  | error fault => exact ⟨fun same => congrArg _ (Except.error.inj same),
      fun same => congrArg _ (Except.error.inj same)⟩
  | ok value => exact iff_of_false nofun nofun

/-! ### Accesses within their bounds -/

variable {data source : Bytes} {start stop : Nat}

theorem ok_bind {Value : Type v} {Next : Type w} (value : Value)
    (next : Value → Checked Error Next) : Except.bind (.ok value) next = next value := rfl

theorem index_eq_ok {place : Nat} (inside : place < data.length) :
    index data place = (.ok (Bytes.byteAt data place) : Checked Error UInt8) := if_pos inside

theorem range_eq_ok (ordered : start ≤ stop) (inside : stop ≤ data.length) :
    range data start stop = (.ok (Bytes.slice data start (stop - start)) : Checked Error Bytes) :=
  if_pos ⟨ordered, inside⟩

theorem copyFromSlice_eq_ok (sized : start + source.length = stop) (inside : stop ≤ data.length) :
    copyFromSlice data start stop source
      = (.ok (Bytes.overwrite data start source) : Checked Error Bytes) :=
  if_pos ⟨by omega, inside, by omega⟩

/-- A copy into the first of two parts. -/
theorem copyFromSlice_front {front back : Bytes} (sized : start + source.length = stop)
    (inside : stop ≤ front.length) :
    copyFromSlice (front ++ back) start stop source
      = (.ok (Bytes.overwrite front start source ++ back) : Checked Error Bytes) := by
  rw [copyFromSlice_eq_ok sized (by rw [List.length_append]; omega),
    Bytes.overwrite_front (by omega)]

/-- A copy into the second one. -/
theorem copyFromSlice_back {front back : Bytes} {first : Nat}
    (begins : front.length + start = first) (sized : first + source.length = stop)
    (inside : stop ≤ front.length + back.length) :
    copyFromSlice (front ++ back) first stop source
      = (.ok (front ++ Bytes.overwrite back start source) : Checked Error Bytes) := by
  rw [copyFromSlice_eq_ok sized (by rwa [List.length_append]), ← begins, Bytes.overwrite_back]

theorem readU16_eq_ok (inside : start + 1 < data.length) :
    readU16 data start = (.ok (Bytes.be16 data start) : Checked Error Nat) := if_pos inside

theorem readU32_eq_ok (inside : start + 3 < data.length) :
    readU32 data start = (.ok (Bytes.value (Bytes.slice data start 4)) : Checked Error Nat) :=
  if_pos inside

theorem entry_eq_ok {Entry : Type v} {entries : List Entry} {index : Nat} {found : Entry}
    (present : entries[index]? = some found) :
    entry entries index = (.ok found : Checked Error Entry) := by
  rw [entry, present]

theorem swap_eq_ok {Entry : Type v} {entries : List Entry} {first second : Nat}
    {one other : Entry} (present : entries[first]? = some one)
    (present' : entries[second]? = some other) :
    swap entries first second
      = (.ok ((entries.set first other).set second one) : Checked Error (List Entry)) := by
  rw [swap, entry_eq_ok present, entry_eq_ok present']
  rfl

theorem minus_eq_ok {number less : Nat} (enough : less ≤ number) :
    minus number less = (.ok (number - less) : Checked Error Nat) := if_pos enough

theorem shiftOne_eq_ok {width amount : Nat} (fits : amount < width) :
    shiftOne width amount = (.ok (1 <<< amount) : Checked Error Nat) := if_pos fits

theorem inBits_ok {width number result : Nat}
    (fits : inBits width number = (.ok result : Checked Error Nat)) :
    number < 2 ^ width ∧ result = number := by
  unfold inBits at fits
  split at fits
  · exact ⟨‹_›, (Except.ok.inj fits).symm⟩
  · cases fits

theorem inBits_eq_ok {width number : Nat} (fits : number < 2 ^ width) :
    inBits width number = (.ok number : Checked Error Nat) := if_pos fits

/-! ### Calls that either return a value or panic -/

/-- **The exact outcome of a call**: it returns `value` when `holds`, and panics otherwise. -/
structure Guarded {Value : Type v} (call : Checked Error Value) (holds : Prop) (value : Value) :
    Prop where
  returns : holds → call = .ok value
  panics : ¬ holds → call = .error .panicked

namespace Guarded

variable {Value : Type v} {Next : Type w} {call : Checked Error Value} {value : Value}
variable {holds : Prop}

theorem of_ok (returned : call = .ok value) : Guarded call True value :=
  ⟨fun _ => returned, fun never => absurd trivial never⟩

theorem congr (guarded : Guarded call holds value) {holds' : Prop} (same : holds ↔ holds') :
    Guarded call holds' value :=
  ⟨fun held => guarded.returns (same.mpr held), fun failed => guarded.panics (mt same.mp failed)⟩

/-- **A sequence** returns when its first part does and then its second. -/
theorem bind (first : Guarded call holds value) {next : Value → Checked Error Next} {holds' : Prop}
    {result : Next} (second : holds → Guarded (next value) holds' result) :
    Guarded (Except.bind call next) (holds ∧ holds') result := by
  refine ⟨fun held => ?_, fun failed => ?_⟩
  · rw [first.returns held.1]
    exact (second held.1).returns held.2
  · by_cases held : holds
    · rw [first.returns held]
      exact (second held).panics fun held' => failed ⟨held, held'⟩
    · rw [first.panics held]
      rfl

/-- A sequence whose first part returns. -/
theorem bind_ok {holds' : Prop} (returned : call = .ok value) {next : Value → Checked Error Next}
    {result : Next} (second : Guarded (next value) holds' result) :
    Guarded (Except.bind call next) holds' result := by
  rw [returned]
  exact second

/-- **A call for each element of a list** returns when all of them do. -/
theorem mapM {Element : Type w} {call : Element → Checked Error Value} {holds : Element → Prop}
    {value : Element → Value} (each : ∀ element, Guarded (call element) (holds element)
      (value element)) (list : List Element) :
    Guarded (list.mapM call) (∀ element ∈ list, holds element) (list.map value) := by
  induction list with
  | nil => exact ⟨fun _ => rfl, fun failed => absurd (List.forall_mem_nil _) failed⟩
  | cons element rest ih =>
      rw [List.mapM_cons, List.map_cons]
      refine congr ?_ List.forall_mem_cons.symm
      refine bind (each element) fun _ => ?_
      have tail : Guarded (Except.bind (rest.mapM call) fun values => .ok (value element :: values))
          _ (value element :: rest.map value) := bind ih fun _ => of_ok rfl
      exact tail.congr (and_iff_left trivial)

theorem panics_iff (guarded : Guarded call holds value) : call = .error .panicked ↔ ¬ holds := by
  refine ⟨fun panicked held => ?_, guarded.panics⟩
  cases (guarded.returns held).symm.trans panicked

/-- A guarded call does not fail with an error. -/
theorem ok_of_ok (guarded : Guarded call holds value) {result : Value}
    (returned : call = .ok result) :
    holds ∧ result = value := by
  by_cases held : holds
  · exact ⟨held, Except.ok.inj (returned.symm.trans (guarded.returns held))⟩
  · cases (guarded.panics held).symm.trans returned

end Guarded

theorem guarded_copyFromSlice (sized : start + source.length = stop) :
    Guarded (copyFromSlice data start stop source : Checked Error Bytes) (stop ≤ data.length)
      (Bytes.overwrite data start source) :=
  ⟨fun inside => copyFromSlice_eq_ok sized inside,
    fun outside => if_neg fun checks => outside checks.2.1⟩

theorem guarded_range (ordered : start ≤ stop) :
    Guarded (range data start stop : Checked Error Bytes) (stop ≤ data.length)
      (Bytes.slice data start (stop - start)) :=
  ⟨fun inside => range_eq_ok ordered inside, fun outside => if_neg fun checks => outside checks.2⟩

theorem guarded_index (place : Nat) :
    Guarded (index data place : Checked Error UInt8) (place < data.length)
      (Bytes.byteAt data place) :=
  ⟨fun inside => if_pos inside, fun outside => if_neg outside⟩

theorem guarded_readU16 (start : Nat) :
    Guarded (readU16 data start : Checked Error Nat) (start + 1 < data.length)
      (Bytes.be16 data start) :=
  ⟨fun inside => if_pos inside, fun outside => if_neg outside⟩

theorem guarded_inBits (width number : Nat) :
    Guarded (inBits width number : Checked Error Nat) (number < 2 ^ width) number :=
  ⟨fun fits => if_pos fits, fun large => if_neg large⟩

end Checked

end RsTun.Library
