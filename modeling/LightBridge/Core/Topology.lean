import Mathlib.Algebra.Ring.Nat
import Mathlib.Data.List.ReduceOption
import LightBridge.Foundation.Cursor
import LightBridge.Host

/-! `parse_physical_cores` of `bridge-core`: the processor records that Windows answers. -/
namespace LightBridge.Core
open Foundation

structure PhysicalCore where
  logical : List Nat
  group : Nat
  mask : Nat
  efficiencyClass : UInt8
  deriving DecidableEq, Repr

def relationProcessorCore : Nat := 0
def processorInfoHeaderBytes : Nat := 8
def processorRelationshipBytes : Nat := 24
def groupAffinityBytes : Nat := 16

/-- How a parse stops: with `return Vec::new()`, or with a panic. -/
inductive ParseStop where
  | malformed
  | indexOutOfBounds
  | arithmeticOverflow
  deriving DecidableEq, Repr

/-- `bytes.get(start..stop)`. -/
def getRange (bytes : List UInt8) (start stop : Nat) : Option (List UInt8) :=
  if start ≤ stop ∧ stop ≤ bytes.length then some (slice bytes start (stop - start)) else none

/-- The number in `width` bytes of a little-endian host. -/
def readNe (width : Nat) (bytes : List UInt8) (offset : Nat) : Option Nat := do
  let stop ← checkedAdd offset width
  let raw ← getRange bytes offset stop
  some (ofLeBytes raw)

def readU16 : List UInt8 → Nat → Option Nat := readNe 2
def readU32 : List UInt8 → Nat → Option Nat := readNe 4
def readUsize : List UInt8 → Nat → Option Nat := readNe 8

/-- `a + b`, which panics where it overflows. -/
def plainAdd (a b : Nat) : Except ParseStop Nat := okOr (checkedAdd a b) .arithmeticOverflow

/-- `start.checked_add(width)`, not past `limit`. -/
def endWithin (limit start width : Nat) : Except ParseStop Nat := do
  let value ← okOr (checkedAdd start width) .malformed
  ensure (value ≤ limit) .malformed
  pure value

/-- `(start..stop).step_by(step)`. -/
def stepBy (start stop step : Nat) : List Nat :=
  List.range' start ((stop - start + step - 1) / step) step

/-- The bits that are set in the mask of a group, as logical processors. -/
def logicalProcessors (group mask : Nat) : List Nat :=
  ((List.range 64).filter fun bit => mask.testBit bit).map fun bit => group * 64 + bit

def parseGroup (bytes : List UInt8) (efficiencyClass : UInt8) (groupOffset : Nat) :
    Except ParseStop (Option PhysicalCore) := do
  let mask ← okOr (readUsize bytes groupOffset) .malformed
  let groupAt ← plainAdd groupOffset 8
  let group ← okOr (readU16 bytes groupAt) .malformed
  let logical := logicalProcessors group mask
  pure (if logical.isEmpty then none else some { logical, group, mask, efficiencyClass })

/-- The body of a record of a core. -/
def parseCore (bytes : List UInt8) (headerEnd recordEnd : Nat) :
    Except ParseStop (List PhysicalCore) := do
  let relationshipEnd ← endWithin recordEnd headerEnd processorRelationshipBytes
  let efficiencyAt ← plainAdd headerEnd 1
  let efficiencyClass ← okOr bytes[efficiencyAt]? .indexOutOfBounds
  let countAt ← plainAdd headerEnd 22
  let groupCount ← okOr (readU16 bytes countAt) .malformed
  ensure (groupCount ≠ 0) .malformed
  let groupBytes ← okOr (checkedMul groupCount groupAffinityBytes) .malformed
  let groupsEnd ← endWithin recordEnd relationshipEnd groupBytes
  let found ← (stepBy relationshipEnd groupsEnd groupAffinityBytes).mapM
    (parseGroup bytes efficiencyClass)
  pure found.reduceOption

/-- One round of the loop: the cores of the record at `offset`, and where the next record starts. -/
def parseRecord (bytes : List UInt8) (offset : Nat) :
    Except ParseStop (List PhysicalCore × Nat) := do
  let headerEnd ← endWithin bytes.length offset processorInfoHeaderBytes
  let relationship ← okOr (readU32 bytes offset) .malformed
  let sizeAt ← plainAdd offset 4
  let recordSize ← okOr (readU32 bytes sizeAt) .malformed
  ensure (processorInfoHeaderBytes ≤ recordSize) .malformed
  let recordEnd ← endWithin bytes.length offset recordSize
  let cores ← (if relationship = relationProcessorCore then parseCore bytes headerEnd recordEnd
    else .ok [])
  pure (cores, recordEnd)

theorem endWithin_eq_ok {limit start width value : Nat} : endWithin limit start width = .ok value ↔
    start + width ≤ usizeMax ∧ start + width ≤ limit ∧ value = start + width := by
  simp only [endWithin, except_bind_ok_iff, okOr_eq_ok, checkedAdd_eq_some, ensure_eq_ok,
    exists_const]
  constructor
  · rintro ⟨_, ⟨hfits, rfl⟩, hlimit, hvalue⟩
    exact ⟨hfits, hlimit, (Except.ok.inj hvalue).symm⟩
  · rintro ⟨hfits, hlimit, rfl⟩
    exact ⟨_, ⟨hfits, rfl⟩, hlimit, rfl⟩

/-- The next record starts behind the header of this one. -/
theorem parseRecord_advances {bytes : List UInt8} {offset recordEnd : Nat}
    {cores : List PhysicalCore}
    (h : parseRecord bytes offset = .ok (cores, recordEnd)) :
    offset + processorInfoHeaderBytes ≤ recordEnd := by
  simp only [parseRecord, except_bind_ok_iff, ensure_eq_ok, exists_const] at h
  obtain ⟨_, -, _, -, _, -, recordSize, -, hsize, _, hend, _, -, h⟩ := h
  obtain ⟨-, -, rfl⟩ := endWithin_eq_ok.mp hend
  have hnext : offset + recordSize = recordEnd := congrArg Prod.snd (Except.ok.inj h)
  rw [← hnext]
  exact Nat.add_le_add_left hsize offset

/-- The loop of `parse_physical_cores`. -/
def parseRecords (bytes : List UInt8) (offset : Nat) (cores : List PhysicalCore) :
    Except ParseStop (List PhysicalCore) :=
  if offset < bytes.length then
    match h : parseRecord bytes offset with
    | .ok (found, recordEnd) => parseRecords bytes recordEnd (cores ++ found)
    | .error stop => .error stop
  else .ok cores
termination_by bytes.length - offset
decreasing_by
  have hnext := parseRecord_advances h
  rw [processorInfoHeaderBytes] at hnext
  omega

def parsePhysicalCores (bytes : List UInt8) : Except ParseStop (List PhysicalCore) :=
  match parseRecords bytes 0 [] with
  | .error .malformed => .ok []
  | result => result

/-! ### Well-formed records -/

/-- `GROUP_AFFINITY`. -/
structure GroupAffinity where
  mask : Nat
  group : Nat
  reserved : List UInt8
  mask_lt : mask < 256 ^ 8
  group_lt : group < 256 ^ 2
  reserved_length : reserved.length = 6

/-- `PROCESSOR_RELATIONSHIP` of a core, and what the record has behind its groups. -/
structure CoreRecord where
  flags : UInt8
  efficiencyClass : UInt8
  reserved : List UInt8
  groups : List GroupAffinity
  slack : List UInt8
  reserved_length : reserved.length = 20
  groups_ne : groups ≠ []
  groups_lt : groups.length < 256 ^ 2
  size_lt : 32 + 16 * groups.length + slack.length < 256 ^ 4

/-- A record of another relationship. -/
structure OtherRecord where
  relationship : Nat
  payload : List UInt8
  relationship_ne : relationship ≠ relationProcessorCore
  relationship_lt : relationship < 256 ^ 4
  size_lt : 8 + payload.length < 256 ^ 4

/-- `SYSTEM_LOGICAL_PROCESSOR_INFORMATION_EX`. -/
inductive Record where
  | core (record : CoreRecord)
  | other (record : OtherRecord)

def GroupAffinity.encode (affinity : GroupAffinity) : List UInt8 :=
  leBytes 8 affinity.mask ++ (leBytes 2 affinity.group ++ affinity.reserved)

def GroupAffinity.core (efficiencyClass : UInt8) (affinity : GroupAffinity) : Option PhysicalCore :=
  if affinity.mask = 0 then none
  else some
    { logical := logicalProcessors affinity.group affinity.mask
      group := affinity.group
      mask := affinity.mask
      efficiencyClass }

def CoreRecord.payload (record : CoreRecord) : List UInt8 :=
  [record.flags, record.efficiencyClass] ++ (record.reserved ++ (leBytes 2 record.groups.length ++
    (record.groups.flatMap GroupAffinity.encode ++ record.slack)))

namespace Record

def relationship : Record → Nat
  | core _ => relationProcessorCore
  | other record => record.relationship

def payload : Record → List UInt8
  | core record => record.payload
  | other record => record.payload

def encode (record : Record) : List UInt8 :=
  leBytes 4 record.relationship ++
    (leBytes 4 (processorInfoHeaderBytes + record.payload.length) ++ record.payload)

/-- One core for each group of a core that has a processor. -/
def cores : Record → List PhysicalCore
  | core record => record.groups.filterMap (GroupAffinity.core record.efficiencyClass)
  | other _ => []

end Record

@[simp] theorem GroupAffinity.length_encode (affinity : GroupAffinity) :
    affinity.encode.length = groupAffinityBytes := by
  rw [encode, List.length_append, List.length_append, length_leBytes, length_leBytes,
    affinity.reserved_length]
  rfl

@[simp] theorem length_flatMap_encode (groups : List GroupAffinity) :
    (groups.flatMap GroupAffinity.encode).length = groupAffinityBytes * groups.length := by
  induction groups with
  | nil => rfl
  | cons affinity groups ih =>
      rw [List.flatMap_cons, List.length_append, ih, affinity.length_encode, List.length_cons,
        Nat.mul_succ, Nat.add_comm]

theorem CoreRecord.length_payload (record : CoreRecord) :
    record.payload.length = processorRelationshipBytes + groupAffinityBytes * record.groups.length +
      record.slack.length := by
  rw [payload, List.length_append, List.length_append, List.length_append, List.length_append,
    record.reserved_length, length_leBytes, length_flatMap_encode, List.length_cons,
    List.length_singleton, processorRelationshipBytes]
  omega

@[simp] theorem Record.length_encode (record : Record) :
    record.encode.length = processorInfoHeaderBytes + record.payload.length := by
  rw [encode, List.length_append, List.length_append, length_leBytes, length_leBytes,
    processorInfoHeaderBytes]
  omega

theorem Record.size_lt (record : Record) :
    processorInfoHeaderBytes + record.payload.length < 256 ^ 4 := by
  cases record with
  | core record =>
      have hsize := record.size_lt
      rw [payload, record.length_payload, processorInfoHeaderBytes, processorRelationshipBytes,
        groupAffinityBytes]
      omega
  | other record => exact record.size_lt

theorem Record.relationship_lt (record : Record) : record.relationship < 256 ^ 4 := by
  cases record with
  | core record => exact Nat.pow_pos (by decide)
  | other record => exact record.relationship_lt

/-! ### Reading what is there -/

/-- `content` is in the bytes at `offset`. -/
structure Holds (bytes : List UInt8) (offset : Nat) (content : List UInt8) : Prop where
  inside : offset + content.length ≤ bytes.length
  content : slice bytes offset content.length = content

section Holds
variable {bytes : List UInt8} {offset : Nat}

theorem holds_append {xs ys : List UInt8} :
    Holds bytes offset (xs ++ ys) ↔ Holds bytes offset xs ∧
      Holds bytes (offset + xs.length) ys := by
  have hsplit : slice bytes offset (xs ++ ys).length = slice bytes offset xs.length ++
      slice bytes (offset + xs.length) ys.length := by
    rw [List.length_append, slice, List.take_add, slice, slice, List.drop_drop]
  constructor
  · rintro ⟨hinside, hcontent⟩
    rw [List.length_append] at hinside
    rw [hsplit] at hcontent
    obtain ⟨hxs, hys⟩ := List.append_inj hcontent (length_slice (by omega))
    exact ⟨⟨by omega, hxs⟩, ⟨by omega, hys⟩⟩
  · rintro ⟨⟨hinside, hxs⟩, ⟨hinside', hys⟩⟩
    constructor
    · rw [List.length_append]
      omega
    · rw [hsplit, hxs, hys]

theorem Holds.left {xs ys : List UInt8} (h : Holds bytes offset (xs ++ ys)) :
    Holds bytes offset xs := (holds_append.mp h).1

theorem Holds.right {xs ys : List UInt8} {width : Nat} (h : Holds bytes offset (xs ++ ys))
    (hwidth : xs.length = width) :
    Holds bytes (offset + width) ys := by
  rw [← hwidth]
  exact (holds_append.mp h).2

/-- What lies between the others. -/
theorem holds_middle (front content back : List UInt8) :
    Holds (front ++ (content ++ back)) front.length content := by
  constructor
  · rw [List.length_append, List.length_append]
    omega
  · rw [slice, List.drop_left, List.take_left]

theorem readNe_eq (width : Nat) (hbytes : bytes.length ≤ usizeMax) :
    readNe width bytes offset = if offset + width ≤
      bytes.length then some (ofLeBytes (slice bytes offset width)) else none := by
  by_cases hinside : offset + width ≤ bytes.length
  · have hordered : offset ≤ offset + width ∧ offset + width ≤ bytes.length :=
      ⟨Nat.le_add_right _ _, hinside⟩
    rw [if_pos hinside, readNe, checkedAdd_of_le (hinside.trans hbytes), Option.bind_eq_bind,
      Option.bind_some, getRange, if_pos hordered, Nat.add_sub_cancel_left]
    rfl
  · rw [if_neg hinside, readNe]
    cases hstop : checkedAdd offset width with
    | none => rfl
    | some stop =>
        obtain ⟨-, rfl⟩ := checkedAdd_eq_some.mp hstop
        rw [Option.bind_eq_bind, Option.bind_some, getRange, if_neg fun h => hinside h.2]
        rfl

theorem Holds.readNe {width n : Nat} (h : Holds bytes offset (leBytes width n))
    (hn : n < 256 ^ width)
    (hbytes : bytes.length ≤ usizeMax) : readNe width bytes offset = some n := by
  have hinside := h.inside
  have hcontent := h.content
  rw [length_leBytes] at hinside hcontent
  rw [readNe_eq width hbytes, if_pos hinside, hcontent, ofLeBytes_leBytes hn]

theorem plainAdd_of_le {a b : Nat} (h : a + b ≤ usizeMax) : plainAdd a b = .ok (a + b) := by
  rw [plainAdd, checkedAdd_of_le h]
  rfl

theorem endWithin_of_le {limit width : Nat} (h : offset + width ≤ limit)
    (hlimit : limit ≤ usizeMax) :
    endWithin limit offset width = .ok (offset + width) :=
  endWithin_eq_ok.mpr ⟨h.trans hlimit, h, rfl⟩

theorem endWithin_of_lt {limit width : Nat} (h : limit < offset + width) :
    endWithin limit offset width = .error .malformed := by
  rw [endWithin]
  cases hvalue : checkedAdd offset width with
  | none => rfl
  | some value =>
      obtain ⟨-, rfl⟩ := checkedAdd_eq_some.mp hvalue
      rw [okOr, except_ok_bind, ensure, if_neg (Nat.not_le_of_lt h)]
      rfl

end Holds

/-! ### One record -/

section Step
variable {bytes : List UInt8} {offset : Nat}

theorem logicalProcessors_eq_nil {group mask : Nat} (hmask : mask < 256 ^ 8) :
    logicalProcessors group mask = [] ↔ mask = 0 := by
  rw [logicalProcessors, List.map_eq_nil_iff, List.filter_eq_nil_iff]
  constructor
  · intro hclear
    apply Nat.eq_of_testBit_eq
    intro bit
    rw [Nat.zero_testBit]
    by_cases hbit : bit < 64
    · exact eq_false_of_ne_true (hclear bit (List.mem_range.mpr hbit))
    · have hhigh : mask < 2 ^ bit := calc
        mask < 2 ^ 64 := hmask
        _ ≤ 2 ^ bit := Nat.pow_le_pow_right (by decide) (Nat.le_of_not_lt hbit)
      exact Nat.testBit_lt_two_pow hhigh
  · rintro rfl bit -
    rw [Nat.zero_testBit]
    decide

/-- A group that is there is read as its core. -/
theorem parseGroup_of_holds {affinity : GroupAffinity} (h : Holds bytes offset affinity.encode)
    (hbytes : bytes.length ≤ usizeMax)
    (efficiencyClass : UInt8) : parseGroup bytes efficiencyClass offset =
      .ok (affinity.core efficiencyClass) := by
  have hmask : readUsize bytes offset = some affinity.mask := h.left.readNe affinity.mask_lt hbytes
  have hbehind : Holds bytes (offset + 8) (leBytes 2 affinity.group ++ affinity.reserved) :=
    h.right (length_leBytes 8 _)
  have hgroup : readU16 bytes (offset + 8) = some affinity.group :=
    hbehind.left.readNe affinity.group_lt hbytes
  have hinside := hbehind.inside
  rw [parseGroup, hmask, okOr, except_ok_bind, plainAdd_of_le (by omega), except_ok_bind, hgroup,
    okOr, except_ok_bind, GroupAffinity.core]
  by_cases hzero : affinity.mask = 0
  · have hnone : logicalProcessors affinity.group affinity.mask = [] :=
      (logicalProcessors_eq_nil affinity.mask_lt).mpr hzero
    rw [if_pos hzero, hnone]
    rfl
  · have hsome : (logicalProcessors affinity.group affinity.mask).isEmpty = false := by
      rw [List.isEmpty_eq_false_iff]
      exact fun hnone => hzero ((logicalProcessors_eq_nil affinity.mask_lt).mp hnone)
    rw [if_neg hzero]
    dsimp only
    rw [hsome]
    rfl

theorem stepBy_groups (start count : Nat) :
    stepBy start (start + count * groupAffinityBytes) groupAffinityBytes =
      List.range' start count groupAffinityBytes := by
  have hcount : (start + count * groupAffinityBytes - start + groupAffinityBytes - 1) /
      groupAffinityBytes = count := by
    rw [groupAffinityBytes]
    omega
  rw [stepBy, hcount]

/-- The groups that are there are read in their order. -/
theorem parseGroups_of_holds {groups : List GroupAffinity}
    (h : Holds bytes offset (groups.flatMap GroupAffinity.encode))
    (hbytes : bytes.length ≤ usizeMax) (efficiencyClass : UInt8) :
    (List.range' offset groups.length groupAffinityBytes).mapM (parseGroup bytes efficiencyClass) =
      .ok (groups.map (GroupAffinity.core efficiencyClass)) := by
  induction groups generalizing offset with
  | nil => rfl
  | cons affinity groups ih =>
      rw [List.flatMap_cons] at h
      rw [List.length_cons, List.range'_succ, List.mapM_cons, parseGroup_of_holds h.left hbytes,
        except_ok_bind, ih (h.right affinity.length_encode), except_ok_bind]
      rfl

/-- A core that is there, in a record that holds all of it. -/
theorem parseCore_of_holds {record : CoreRecord} {recordEnd : Nat}
    (h : Holds bytes offset record.payload) (hbytes : bytes.length ≤ usizeMax)
    (hend : recordEnd = offset + record.payload.length) :
    parseCore bytes offset recordEnd =
      .ok (record.groups.filterMap (GroupAffinity.core record.efficiencyClass)) := by
  have hinside := h.inside
  have hsize := record.length_payload
  rw [processorRelationshipBytes, groupAffinityBytes] at hsize
  have hbehind : Holds bytes (offset + 2) (record.reserved ++ (leBytes 2 record.groups.length ++
    (record.groups.flatMap GroupAffinity.encode ++ record.slack))) := h.right rfl
  have hcounted := hbehind.right record.reserved_length
  have hgroups : Holds bytes (offset + 24) (record.groups.flatMap GroupAffinity.encode) :=
    (hcounted.right (length_leBytes 2 _)).left
  have hcount : readU16 bytes (offset + 22) = some record.groups.length :=
    hcounted.left.readNe record.groups_lt hbytes
  have hclass : bytes[offset + 1]? = some record.efficiencyClass := by
    have hpair : (slice bytes offset 2)[1]? = some record.efficiencyClass :=
      congrArg (fun content => content[1]?) h.left.content
    rwa [getElem?_slice, if_pos (by decide)] at hpair
  have hsome : record.groups.length ≠ 0 :=
    fun hzero => record.groups_ne (List.length_eq_zero_iff.mp hzero)
  have hlt := record.groups_lt
  rw [parseCore, processorRelationshipBytes, endWithin_of_le (by omega) (by omega), except_ok_bind,
    plainAdd_of_le (by omega), except_ok_bind, hclass, okOr, except_ok_bind,
    plainAdd_of_le (by omega), except_ok_bind, hcount, okOr, except_ok_bind, ensure, if_pos hsome,
    except_ok_bind, checkedMul_of_le (by rw [groupAffinityBytes]; omega), okOr, except_ok_bind,
    endWithin_of_le (by rw [groupAffinityBytes]; omega) (by omega), except_ok_bind, stepBy_groups,
    parseGroups_of_holds hgroups hbytes, except_ok_bind, List.reduceOption, List.filterMap_map]
  rfl

/-- A record that is there is read as its cores. -/
theorem parseRecord_of_holds {record : Record} (h : Holds bytes offset record.encode)
    (hbytes : bytes.length ≤ usizeMax) :
    parseRecord bytes offset = .ok (record.cores, offset + record.encode.length) := by
  have hinside := h.inside
  have hsize := record.size_lt
  rw [record.length_encode] at hinside
  rw [processorInfoHeaderBytes] at hinside hsize
  have hrelationship : readU32 bytes offset = some record.relationship :=
    h.left.readNe record.relationship_lt hbytes
  have hbehind := h.right (length_leBytes 4 record.relationship)
  have hsized : readU32 bytes (offset + 4) = some (8 + record.payload.length) :=
    hbehind.left.readNe hsize hbytes
  have hpayload : Holds bytes (offset + 8) record.payload := hbehind.right (length_leBytes 4 _)
  rw [parseRecord, processorInfoHeaderBytes, endWithin_of_le (by omega) hbytes, except_ok_bind,
    hrelationship, okOr, except_ok_bind, plainAdd_of_le (by omega), except_ok_bind, hsized, okOr,
    except_ok_bind, ensure, if_pos (Nat.le_add_right _ _), except_ok_bind,
    endWithin_of_le (by omega) hbytes, except_ok_bind, record.length_encode]
  cases record with
  | core record =>
      have hcore : parseCore bytes (offset + 8) (offset + (8 + record.payload.length)) =
          .ok (record.groups.filterMap (GroupAffinity.core record.efficiencyClass)) :=
        parseCore_of_holds hpayload hbytes (Nat.add_assoc offset 8 _).symm
      rw [Record.relationship, if_pos rfl, Record.payload, hcore]
      rfl
  | other record =>
      rw [Record.relationship, if_neg record.relationship_ne]
      rfl

end Step

/-! ### Malformed records -/

/-- The number in `width` bytes of what is left of a buffer. -/
def fieldOf (rest : List UInt8) (offset width : Nat) : Nat := ofLeBytes (slice rest offset width)

/-- What is left of a buffer does not begin with a record. -/
inductive Malformed (rest : List UInt8) : Prop where
  | header : rest ≠ [] → rest.length < 8 → Malformed rest
  | short : fieldOf rest 4 4 < 8 → 8 ≤ rest.length → Malformed rest
  | overrun : rest.length < fieldOf rest 4 4 → 8 ≤ rest.length → Malformed rest
  | relationship : fieldOf rest 0 4 = relationProcessorCore → fieldOf rest 4 4 < 32 →
    8 ≤ rest.length → Malformed rest
  | noGroups : fieldOf rest 0 4 = relationProcessorCore → fieldOf rest 30 2 = 0 → 8 ≤ rest.length →
    Malformed rest
  | groups : fieldOf rest 0 4 = relationProcessorCore →
    fieldOf rest 4 4 < 32 + 16 * fieldOf rest 30 2 → 8 ≤ rest.length →
      Malformed rest

theorem Malformed.ne_nil {rest : List UInt8} (h : Malformed rest) : rest ≠ [] := by
  rintro rfl
  cases h with
  | header hne _ => exact hne rfl
  | short _ hlength => exact absurd hlength (by decide)
  | overrun _ hlength => exact absurd hlength (by decide)
  | relationship _ _ hlength => exact absurd hlength (by decide)
  | noGroups _ _ hlength => exact absurd hlength (by decide)
  | groups _ _ hlength => exact absurd hlength (by decide)

section Malformed
variable {bytes : List UInt8} {offset : Nat}

/-- A field of what is left is a field of the buffer. -/
theorem readNe_field {width place : Nat} (hbytes : bytes.length ≤ usizeMax)
    (h : offset + place + width ≤ bytes.length) :
    readNe width bytes (offset + place) = some (fieldOf (bytes.drop offset) place width) := by
  rw [readNe_eq width hbytes, if_pos h, fieldOf, slice, slice, List.drop_drop]

/-- A core record that is too short, has no group or has groups that do not fit. -/
theorem parseCore_of_malformed {recordEnd : Nat} (hbytes : bytes.length ≤ usizeMax)
    (hend : recordEnd ≤ bytes.length)
    (h : recordEnd < offset + 24 ∨ fieldOf (bytes.drop offset) 22 2 = 0 ∨
      recordEnd < offset + 24 + 16 * fieldOf (bytes.drop offset) 22 2) :
    parseCore bytes offset recordEnd = .error .malformed := by
  by_cases hshort : recordEnd < offset + processorRelationshipBytes
  · rw [parseCore, endWithin_of_lt hshort]
    rfl
  · rw [processorRelationshipBytes] at hshort
    have hclass : offset + 1 < bytes.length := by omega
    rw [parseCore, processorRelationshipBytes, endWithin_of_le (by omega) (by omega),
      except_ok_bind, plainAdd_of_le (by omega), except_ok_bind, List.getElem?_eq_getElem hclass,
      okOr, except_ok_bind, plainAdd_of_le (by omega), except_ok_bind, readU16,
      readNe_field hbytes (by omega), okOr, except_ok_bind]
    by_cases hcount : fieldOf (bytes.drop offset) 22 2 = 0
    · rw [hcount]
      rfl
    · rw [ensure, if_pos hcount, except_ok_bind]
      cases hproduct : checkedMul (fieldOf (bytes.drop offset) 22 2) groupAffinityBytes with
      | none => rfl
      | some groupBytes =>
          obtain ⟨-, rfl⟩ := checkedMul_eq_some.mp hproduct
          rw [okOr, except_ok_bind, endWithin_of_lt (by rw [groupAffinityBytes]; omega)]
          rfl

theorem parseRecord_of_malformed (hbytes : bytes.length ≤ usizeMax)
    (h : Malformed (bytes.drop offset)) : parseRecord bytes offset = .error .malformed := by
  have hrest : (bytes.drop offset).length = bytes.length - offset := List.length_drop
  by_cases hheader : bytes.length < offset + processorInfoHeaderBytes
  · rw [parseRecord, endWithin_of_lt hheader]
    rfl
  · rw [processorInfoHeaderBytes] at hheader
    have hfirst : readU32 bytes offset = some (fieldOf (bytes.drop offset) 0 4) :=
      @readNe_field bytes offset 4 0 hbytes (by omega)
    have hsecond : readU32 bytes (offset + 4) = some (fieldOf (bytes.drop offset) 4 4) :=
      readNe_field hbytes (by omega)
    rw [parseRecord, processorInfoHeaderBytes, endWithin_of_le (by omega) hbytes, except_ok_bind,
      hfirst, okOr, except_ok_bind, plainAdd_of_le (by omega), except_ok_bind, hsecond, okOr,
      except_ok_bind]
    by_cases hshort : 8 ≤ fieldOf (bytes.drop offset) 4 4
    · rw [ensure, if_pos hshort, except_ok_bind]
      by_cases hoverrun : bytes.length < offset + fieldOf (bytes.drop offset) 4 4
      · rw [endWithin_of_lt hoverrun]
        rfl
      · rw [endWithin_of_le (by omega) hbytes, except_ok_bind]
        have hfield : fieldOf (bytes.drop (offset + 8)) 22 2 =
            fieldOf (bytes.drop offset) 30 2 := by
          rw [fieldOf, fieldOf, slice, slice, List.drop_drop, List.drop_drop]
        have hcore (hrelationship : fieldOf (bytes.drop offset) 0 4 = relationProcessorCore)
            (hbody : fieldOf (bytes.drop offset) 4 4 < 32 ∨ fieldOf (bytes.drop offset) 30 2 = 0 ∨
              fieldOf (bytes.drop offset) 4 4 < 32 + 16 * fieldOf (bytes.drop offset) 30 2) :
            (if fieldOf (bytes.drop offset) 0 4 = relationProcessorCore then
              parseCore bytes (offset + 8) (offset + fieldOf (bytes.drop offset) 4 4) else .ok []) =
                .error .malformed := by
          rw [if_pos hrelationship]
          apply parseCore_of_malformed hbytes (by omega)
          rw [hfield]
          omega
        cases h with
        | header _ hlength => omega
        | short hsize _ => omega
        | overrun hsize _ => omega
        | relationship hrelationship hsize _ =>
            rw [hcore hrelationship (.inl hsize)]
            rfl
        | noGroups hrelationship hcount _ =>
            rw [hcore hrelationship (.inr (.inl hcount))]
            rfl
        | groups hrelationship hsize _ =>
            rw [hcore hrelationship (.inr (.inr hsize))]
            rfl
    · rw [ensure, if_neg hshort]
      rfl

end Malformed

/-! ### What is not malformed begins with a record -/

section Rest
variable {rest : List UInt8}

/-- The bytes of a field are the code of its number. -/
theorem leBytes_fieldOf {offset width : Nat} (h : offset + width ≤ rest.length) :
    leBytes width (fieldOf rest offset width) = slice rest offset width := by
  have hcode := leBytes_ofLeBytes (slice rest offset width)
  rwa [length_slice h] at hcode

theorem fieldOf_lt {offset width : Nat} (h : offset + width ≤ rest.length) :
    fieldOf rest offset width < 256 ^ width := by
  have hlt := ofLeBytes_lt (slice rest offset width)
  rwa [length_slice h] at hlt

/-- The group at an offset of what is left. -/
def groupAt (rest : List UInt8) (offset : Nat) (h : offset + 16 ≤ rest.length) : GroupAffinity where
  mask := fieldOf rest offset 8
  group := fieldOf rest (offset + 8) 2
  reserved := slice rest (offset + 10) 6
  mask_lt := fieldOf_lt (by omega)
  group_lt := fieldOf_lt (by omega)
  reserved_length := length_slice (by omega)

theorem encode_groupAt {offset : Nat} (h : offset + 16 ≤ rest.length) :
    (groupAt rest offset h).encode = slice rest offset 16 := by
  have hmask : leBytes 8 (fieldOf rest offset 8) = slice rest offset 8 := leBytes_fieldOf (by omega)
  have hgroup : leBytes 2 (fieldOf rest (offset + 8) 2) = slice rest (offset + 8) 2 :=
    leBytes_fieldOf (by omega)
  rw [GroupAffinity.encode, groupAt, hmask,
    hgroup, ← slice_add rest (offset + 8) 2 6, ← slice_add rest offset 8 8]

/-- As many groups as there are bytes for. -/
theorem exists_groups {offset count : Nat} (h : offset + 16 * count ≤ rest.length) :
    ∃ groups : List GroupAffinity, groups.length = count ∧
      groups.flatMap GroupAffinity.encode = slice rest offset (16 * count) := by
  induction count generalizing offset with
  | zero => exact ⟨[], rfl, rfl⟩
  | succ count ih =>
      have hsum : 16 * (count + 1) = 16 + 16 * count := by omega
      have hroom : offset + 16 + 16 * count ≤ rest.length := by omega
      obtain ⟨groups, hcount, hcode⟩ := ih hroom
      refine ⟨groupAt rest offset (by omega) :: groups, congrArg (· + 1) hcount, ?_⟩
      rw [List.flatMap_cons, hcode, encode_groupAt, hsum, ← slice_add]

/-- The size of a record that is there, and its payload. -/
theorem encode_of_payload {record : Record} {size : Nat} (hlength : 8 ≤ rest.length)
    (hsize : fieldOf rest 4 4 = size) (hle : 8 ≤ size) (hinside : size ≤ rest.length)
    (hrelationship : record.relationship = fieldOf rest 0 4)
    (hpayload : record.payload = slice rest 8 (size - 8)) :
    rest = record.encode ++ rest.drop size := by
  have hwidth : processorInfoHeaderBytes + record.payload.length = fieldOf rest 4 4 := by
    rw [hpayload, length_slice (by omega), hsize, processorInfoHeaderBytes]
    omega
  have hall : 4 + (4 + (size - 8)) = size := by omega
  rw [Record.encode, hwidth, hrelationship, hpayload, leBytes_fieldOf (by omega),
    leBytes_fieldOf (by omega), ← slice_add rest 4 4, ← slice_add rest 0 4, hall, slice,
    List.drop_zero, List.take_append_drop]

theorem exists_record (hne : rest ≠ []) (h : ¬ Malformed rest) :
    ∃ (record : Record) (tail : List UInt8), rest = record.encode ++ tail := by
  have hlength : 8 ≤ rest.length := Nat.le_of_not_lt fun hlt => h (.header hne hlt)
  have hle : 8 ≤ fieldOf rest 4 4 := Nat.le_of_not_lt fun hlt => h (.short hlt hlength)
  have hinside : fieldOf rest 4 4 ≤ rest.length := Nat.le_of_not_lt fun hlt =>
      h (.overrun hlt hlength)
  have hsize : fieldOf rest 4 4 < 256 ^ 4 := fieldOf_lt (by omega)
  by_cases hrelationship : fieldOf rest 0 4 = relationProcessorCore
  · have hshort : 32 ≤ fieldOf rest 4 4 := Nat.le_of_not_lt fun hlt =>
        h (.relationship hrelationship hlt hlength)
    have hcount : fieldOf rest 30 2 ≠ 0 := fun hzero => h (.noGroups hrelationship hzero hlength)
    have hfit : 32 + 16 * fieldOf rest 30 2 ≤ fieldOf rest 4 4 :=
      Nat.le_of_not_lt fun hlt => h (.groups hrelationship hlt hlength)
    have hcounted : fieldOf rest 30 2 < 256 ^ 2 := fieldOf_lt (by omega)
    obtain ⟨groups, hgroups, hcode⟩ := @exists_groups rest 32 (fieldOf rest 30 2) (by omega)
    have hslack : (slice rest (32 + 16 * fieldOf rest 30 2)
        (fieldOf rest 4 4 - (32 + 16 * fieldOf rest 30 2))).length =
        fieldOf rest 4 4 - (32 + 16 * fieldOf rest 30 2) := length_slice (by omega)
    let record : CoreRecord :=
      { flags := rest[8]
        efficiencyClass := rest[9]
        reserved := slice rest 10 20
        groups
        slack := slice rest (32 + 16 * fieldOf rest 30 2)
          (fieldOf rest 4 4 - (32 + 16 * fieldOf rest 30 2))
        reserved_length := length_slice (by omega)
        groups_ne := by
          rintro rfl
          exact hcount hgroups.symm
        groups_lt := hgroups ▸ hcounted
        size_lt := by
          rw [hgroups, hslack]
          omega }
    have hpair : [rest[8], rest[9]] = slice rest 8 2 := by
      rw [slice, List.drop_eq_getElem_cons (by omega), List.drop_eq_getElem_cons (by omega)]
      rfl
    have hpayload : (Record.core record).payload = slice rest 8 (fieldOf rest 4 4 - 8) := by
      have hgap : 16 * fieldOf rest 30 2 + (fieldOf rest 4 4 - (32 + 16 * fieldOf rest 30 2)) =
          fieldOf rest 4 4 - 32 := by omega
      have hall : 2 + (20 + (2 + (fieldOf rest 4 4 - 32))) = fieldOf rest 4 4 - 8 := by omega
      rw [Record.payload, CoreRecord.payload, hgroups, hpair, leBytes_fieldOf (by omega),
        hcode, ← slice_add rest 32,
        hgap, ← slice_add rest 30 2, ← slice_add rest 10 20, ← slice_add rest 8 2, hall]
    exact ⟨.core record, _, encode_of_payload hlength rfl hle hinside hrelationship.symm hpayload⟩
  · have hpayload : (slice rest 8 (fieldOf rest 4 4 - 8)).length = fieldOf rest 4 4 - 8 :=
      length_slice (by omega)
    let record : OtherRecord :=
      { relationship := fieldOf rest 0 4
        payload := slice rest 8 (fieldOf rest 4 4 - 8)
        relationship_ne := hrelationship
        relationship_lt := fieldOf_lt (by omega)
        size_lt := by
          rw [hpayload]
          omega }
    exact ⟨.other record, _, encode_of_payload hlength rfl hle hinside rfl rfl⟩

/-- A buffer is a sequence of records, up to its end or to what is malformed. -/
theorem exists_records (bytes : List UInt8) : ∃ (records : List Record) (rest : List UInt8),
    bytes = records.flatMap Record.encode ++ rest ∧ (rest = [] ∨ Malformed rest) := by
  induction hsize : bytes.length using Nat.strong_induction_on generalizing bytes with
  | _ size ih =>
      by_cases hmalformed : bytes = [] ∨ Malformed bytes
      · exact ⟨[], bytes, rfl, hmalformed⟩
      · rw [not_or] at hmalformed
        obtain ⟨record, tail, rfl⟩ := exists_record hmalformed.1 hmalformed.2
        have hshorter : tail.length < size := by
          rw [← hsize, List.length_append, record.length_encode, processorInfoHeaderBytes]
          omega
        obtain ⟨records, rest, rfl, hrest⟩ := ih tail.length hshorter tail rfl
        exact ⟨record :: records, rest, by rw [List.flatMap_cons, List.append_assoc], hrest⟩

end Rest

/-! ### The whole buffer -/

section Run
variable {bytes : List UInt8}

/-- Records that are there are read one after the other. -/
theorem parseRecords_of_holds {offset : Nat} {records : List Record}
    (hbytes : bytes.length ≤ usizeMax) (h : Holds bytes offset (records.flatMap Record.encode))
    (cores : List PhysicalCore) :
    parseRecords bytes offset cores =
      parseRecords bytes (offset + (records.flatMap Record.encode).length)
        (cores ++ records.flatMap Record.cores) := by
  induction records generalizing offset cores with
  | nil => rw [List.flatMap_nil, List.flatMap_nil, List.append_nil, List.length_nil, Nat.add_zero]
  | cons record records ih =>
      rw [List.flatMap_cons] at h
      have hinside := h.left.inside
      have hsize := record.length_encode
      rw [processorInfoHeaderBytes] at hsize
      have hstep : parseRecords bytes offset cores =
          parseRecords bytes (offset + record.encode.length) (cores ++ record.cores) := by
        rw [parseRecords, if_pos (by omega)]
        split
        next found recordEnd hrecord =>
          rw [parseRecord_of_holds h.left hbytes] at hrecord
          obtain ⟨rfl, rfl⟩ := Prod.mk.inj (Except.ok.inj hrecord)
          rfl
        next stop hrecord =>
          rw [parseRecord_of_holds h.left hbytes] at hrecord
          cases hrecord
      rw [hstep, ih (h.right rfl), List.flatMap_cons, List.flatMap_cons, List.length_append,
        List.append_assoc, Nat.add_assoc]

theorem parseRecords_of_malformed {offset : Nat} (hoffset : offset ≤ bytes.length)
    (hbytes : bytes.length ≤ usizeMax)
    (h : Malformed (bytes.drop offset)) (cores : List PhysicalCore) :
    parseRecords bytes offset cores = .error .malformed := by
  have hmore : offset < bytes.length := by
    refine Nat.lt_of_le_of_ne hoffset ?_
    rintro rfl
    exact h.ne_nil List.drop_length
  rw [parseRecords, if_pos hmore]
  split
  next found recordEnd hrecord =>
    rw [parseRecord_of_malformed hbytes h] at hrecord
    cases hrecord
  next stop hrecord =>
    rw [parseRecord_of_malformed hbytes h] at hrecord
    exact congrArg Except.error (Except.error.inj hrecord).symm

end Run

/-- Whatever is in a buffer, it is a sequence of records that ends with the buffer or before
something malformed; the parse comes to an end without a panic, and it answers the cores of all the
records, or nothing where something is malformed. -/
theorem physical_cores_parsed (bytes : List UInt8) (hbytes : bytes.length ≤ isizeMax) :
    (∃ (records : List Record) (rest : List UInt8), bytes = records.flatMap Record.encode ++ rest ∧
      (rest = [] ∨ Malformed rest)) ∧
    ∀ (records : List Record) (rest : List UInt8), bytes = records.flatMap Record.encode ++ rest →
      (rest = [] → parsePhysicalCores bytes = .ok (records.flatMap Record.cores)) ∧
      (Malformed rest → parsePhysicalCores bytes = .ok []) := by
  have husize : bytes.length ≤ usizeMax := hbytes.trans (by decide)
  refine ⟨exists_records bytes, ?_⟩
  intro records rest hsplit
  have hlength : bytes.length = (records.flatMap Record.encode).length + rest.length := by
    rw [hsplit, List.length_append]
  have hheld : Holds bytes 0 (records.flatMap Record.encode) := by
    rw [hsplit]
    exact holds_middle [] _ rest
  have hrun := parseRecords_of_holds husize hheld []
  rw [Nat.zero_add, List.nil_append] at hrun
  constructor
  · rintro rfl
    rw [parsePhysicalCores, hrun, parseRecords, if_neg (by rw [hlength]; exact Nat.lt_irrefl _)]
  · intro hmalformed
    have hrest : bytes.drop (records.flatMap Record.encode).length = rest := by
      rw [hsplit, List.drop_left]
    rw [parsePhysicalCores, hrun, parseRecords_of_malformed (by omega) husize (hrest ▸ hmalformed)]

/-- A core of the third group, with two processors. -/
def pairedCore : CoreRecord where
  flags := 1
  efficiencyClass := 9
  reserved := List.replicate 20 0
  groups := [⟨5, 2, List.replicate 6 0, by decide, by decide, rfl⟩]
  slack := []
  reserved_length := rfl
  groups_ne := List.cons_ne_nil _ _
  groups_lt := by decide
  size_lt := by decide

theorem physical_cores_parsed_paired :
    parsePhysicalCores (Record.core pairedCore).encode =
      .ok [{ logical := [128, 130], group := 2, mask := 5, efficiencyClass := 9 }] :=
  ((physical_cores_parsed (Record.core pairedCore).encode (by decide)).2 [.core pairedCore] []
    (by rw [List.flatMap_singleton, List.append_nil])).1 rfl

end LightBridge.Core
