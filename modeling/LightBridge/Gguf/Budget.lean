import Mathlib.Algebra.BigOperators.Group.List.Basic
import LightBridge.Foundation.Triple
import LightBridge.Gguf.Reader

/-! The budgets of the GGUF reader: what its counters count, and the test that rejects an array
before its elements are read. -/
namespace LightBridge.Gguf
open Foundation Foundation.Command

/-- The bytes of an event that are charged to the metadata. -/
def Event.charge : Event → Nat
  | bytes amount true => amount
  | bytes _ false => 0
  | array _ => 0

/-- The bytes of an event. -/
def Event.amount : Event → Nat
  | bytes amount _ => amount
  | array _ => 0

/-- The array elements that an event declares. -/
def Event.declared : Event → Nat
  | bytes .. => 0
  | array count => count

def charged (history : List Checkpoint) : Nat := (history.map fun point => point.event.charge).sum

/-- How many bytes a parse has read. -/
def consumed (history : List Checkpoint) : Nat := (history.map fun point => point.event.amount).sum

def declared (history : List Checkpoint) : Nat :=
  (history.map fun point => point.event.declared).sum

/-- The counters are those of a history, inside their limits. -/
structure Counts (limits : ReaderLimits) (history : List Checkpoint)
    (metadataBytes arrayElements : Nat) : Prop where
  metadataBytes_eq : metadataBytes = charged history
  arrayElements_eq : arrayElements = declared history
  metadataBytes_le : metadataBytes ≤ limits.maxMetadataBytes
  arrayElements_le : arrayElements ≤ limits.maxArrayElements

/-- Behind every event the counters were those of the history up to it. -/
def Faithful (limits : ReaderLimits) (history : List Checkpoint) : Prop :=
  ∀ front point rest, history = front ++ point :: rest →
    Counts limits (front ++ [point]) point.metadataBytes point.arrayElements

/-- A reader whose counters are right, since some history on. -/
structure Audited (source : Source) (limits : ReaderLimits) (accounts : Bool)
    (since : List Checkpoint) (reader : GgufReader) : Prop where
  source_eq : reader.source = source
  limits_eq : reader.limits = limits
  accounts_eq : reader.accountMetadata = accounts
  position_eq : reader.position = consumed reader.history
  counts : Counts limits reader.history reader.metadataBytes reader.arrayElements
  faithful : Faithful limits reader.history
  since_le : since <+: reader.history

/-- A reader that is at the end of the file. -/
structure Finished (limits : ReaderLimits) (since : List Checkpoint)
    (reader : GgufReader) : Prop where
  counts : Counts limits reader.history reader.metadataBytes reader.arrayElements
  faithful : Faithful limits reader.history
  since_le : since <+: reader.history

/-- A reader that has failed. The bytes of a read that the source has refused are charged and not
consumed. -/
structure Stopped (limits : ReaderLimits) (since : List Checkpoint) (error : GgufError)
    (reader : GgufReader) : Prop where
  metadataBytes_le : reader.metadataBytes ≤ limits.maxMetadataBytes
  arrayElements_eq : reader.arrayElements = declared reader.history
  arrayElements_le : reader.arrayElements ≤ limits.maxArrayElements
  metadataBytes_eq : reader.metadataBytes = charged reader.history ∨
    ∃ refused context source, error = .fromIo context source ∧
      reader.metadataBytes = charged reader.history + refused
  faithful : Faithful limits reader.history
  since_le : since <+: reader.history

/-- Between the charge of some bytes and their read. -/
structure Pending (source : Source) (limits : ReaderLimits) (accounts : Bool)
    (since : List Checkpoint) (amount : Nat) (reader : GgufReader) : Prop where
  source_eq : reader.source = source
  position_eq : reader.position = consumed reader.history
  limits_eq : reader.limits = limits
  accounts_eq : reader.accountMetadata = accounts
  metadataBytes_eq : reader.metadataBytes = charged reader.history +
    (Event.bytes amount accounts).charge
  metadataBytes_le : reader.metadataBytes ≤ limits.maxMetadataBytes
  arrayElements_eq : reader.arrayElements = declared reader.history
  arrayElements_le : reader.arrayElements ≤ limits.maxArrayElements
  faithful : Faithful limits reader.history
  since_le : since <+: reader.history

@[simp] theorem charged_append (history : List Checkpoint) (point : Checkpoint) :
    charged (history ++ [point]) = charged history + point.event.charge := by
  rw [charged, List.map_append, List.sum_append, List.map_singleton, List.sum_singleton]
  rfl

@[simp] theorem consumed_append (history : List Checkpoint) (point : Checkpoint) :
    consumed (history ++ [point]) = consumed history + point.event.amount := by
  rw [consumed, List.map_append, List.sum_append, List.map_singleton, List.sum_singleton]
  rfl

@[simp] theorem declared_append (history : List Checkpoint) (point : Checkpoint) :
    declared (history ++ [point]) = declared history + point.event.declared := by
  rw [declared, List.map_append, List.sum_append, List.map_singleton, List.sum_singleton]
  rfl

theorem Faithful.append {limits : ReaderLimits} {history : List Checkpoint} {point : Checkpoint}
    (h : Faithful limits history)
    (hpoint : Counts limits (history ++ [point]) point.metadataBytes point.arrayElements) :
    Faithful limits (history ++ [point]) := by
  intro front other rest hsplit
  rcases List.eq_nil_or_concat rest with rfl | ⟨rest, last, rfl⟩
  · obtain ⟨rfl, hlast⟩ := List.append_inj' hsplit rfl
    obtain rfl := List.singleton_inj.mp hlast
    exact hpoint
  · rw [List.concat_eq_append, ← List.cons_append, ← List.append_assoc] at hsplit
    exact h front other rest (List.append_inj' hsplit rfl).1

/-- An event that leaves the counters right. -/
theorem audited_note {source : Source} {limits : ReaderLimits} {accounts : Bool}
    {since : List Checkpoint} {reader : GgufReader} {event : Event}
    (hsource : reader.source = source) (hlimits : reader.limits = limits)
    (haccounts : reader.accountMetadata = accounts)
    (hposition : reader.position =
      consumed (reader.history ++ [⟨event, reader.metadataBytes, reader.arrayElements⟩]))
    (hcounts : Counts limits
      (reader.history ++ [⟨event, reader.metadataBytes, reader.arrayElements⟩]) reader.metadataBytes
      reader.arrayElements)
    (hfaithful : Faithful limits reader.history) (hsince : since <+: reader.history) :
    Audited source limits accounts since (reader.note event) :=
  ⟨hsource, hlimits, haccounts, hposition, hcounts, hfaithful.append hcounts,
    hsince.trans (List.prefix_append _ _)⟩

namespace GgufReader
variable {source : Source} {limits : ReaderLimits} {accounts : Bool} {since : List Checkpoint}

/-- A reader of the budgets keeps the audit. -/
abbrev Audits (source : Source) (limits : ReaderLimits) (accounts : Bool) (since : List Checkpoint)
    {α : Type} (c : Reader α) : Prop :=
  Triple (Audited source limits accounts since) c (fun _ => Audited source limits accounts since)
    (Stopped limits since)

theorem audited_stopped {reader : GgufReader} (h : Audited source limits accounts since reader)
    (error : GgufError) :
    Stopped limits since error reader :=
  ⟨h.counts.metadataBytes_le, h.counts.arrayElements_eq, h.counts.arrayElements_le,
    .inl h.counts.metadataBytes_eq, h.faithful, h.since_le⟩

/-! ### What leaves the reader as it is -/

theorem looks_checkLimit (kind : String) (limit : ReaderLimits → Nat) (actual : Nat) :
    (checkLimit kind limit actual).Looks :=
  .read_bind fun _ => .lift _

theorem looks_checkedCount (kind : String) (limit : ReaderLimits → Nat) (actual : Nat) :
    (checkedCount kind limit actual).Looks :=
  (looks_checkLimit kind limit actual).bind fun _ => .lift _

theorem looks_reserve (reservation : Reservation) (bytes : Nat) :
    (reserve reservation bytes).Looks := .read_bind fun _ => .lift _

theorem looks_aggregateElements (count : Nat) : (aggregateElements count).Looks :=
  .read_bind fun _ => (Looks.lift _).bind fun aggregate =>
    (looks_checkLimit "array elements" ReaderLimits.maxArrayElements aggregate).bind
      fun _ => .lift _

theorem looks_checkMinimumBytes (elementType : GgufValueType) (count : Nat) :
    (checkMinimumBytes elementType count).Looks :=
  .read_bind fun _ => (Looks.lift _).bind fun _ => (Looks.lift _).bind fun _ =>
    (Looks.lift _).bind fun _ =>
    looks_checkLimit _ _ _

theorem audits_looks {α : Type} {c : Reader α} (h : c.Looks) :
    Audits source limits accounts since c :=
  .looks h fun error _ hs => audited_stopped hs error

/-- A check in front of a reader. -/
theorem Audits.after {α β : Type} {c : Reader α} {k : α → Reader β} {Q : β → GgufReader → Prop}
    (hc : c.Looks)
    (hk : ∀ a, Triple (Audited source limits accounts since) (k a) Q (Stopped limits since)) :
    Triple (Audited source limits accounts since) (c >>= k) Q (Stopped limits since) :=
  (audits_looks hc).bind hk

/-! ### The audit -/

theorem audits_account (amount : Nat) :
    Triple (Audited source limits accounts since) (account amount)
      (fun _ => Pending source limits accounts since amount) (Stopped limits since) := by
  refine .read_bind fun reader hreader => ?_
  have hmetadata := hreader.counts.metadataBytes_eq
  by_cases haccounts : reader.accountMetadata = true
  · rw [if_pos haccounts]
    have hcharge : (Event.bytes amount accounts).charge = amount := by
      rw [← hreader.accounts_eq, haccounts]
      rfl
    constructor
    case answers =>
      rintro _ a t rfl hrun
      obtain ⟨next, hnext, hrun⟩ := lift_bind_ok_iff.mp hrun
      obtain ⟨-, rfl⟩ := checkedAdd_eq_some.mp (okOr_eq_ok.mp hnext)
      obtain ⟨_, _, hcheck, hrun⟩ := bind_ok_iff.mp hrun
      obtain ⟨hle, rfl⟩ := Prod.mk.inj hcheck
      have hle := ensure_eq_ok.mp hle
      cases hrun
      rw [hreader.limits_eq] at hle
      refine ⟨hreader.source_eq, hreader.position_eq, hreader.limits_eq, hreader.accounts_eq, ?_,
        hle, hreader.counts.arrayElements_eq, hreader.counts.arrayElements_le, hreader.faithful,
        hreader.since_le⟩
      rw [hcharge]
      exact congrArg (· + amount) hmetadata
    case fails =>
      rintro _ e t rfl hrun
      rcases bind_error_iff.mp hrun with hfirst | ⟨next, _, hfirst, hrun⟩
      · obtain ⟨-, rfl⟩ := Prod.mk.inj hfirst
        exact audited_stopped hreader e
      · obtain ⟨-, rfl⟩ := Prod.mk.inj hfirst
        rcases bind_error_iff.mp hrun with hcheck | ⟨_, _, _, hupdate⟩
        · obtain ⟨-, rfl⟩ := Prod.mk.inj hcheck
          exact audited_stopped hreader e
        · cases hupdate
  · rw [if_neg haccounts]
    have hcharge : (Event.bytes amount accounts).charge = 0 := by
      rw [← hreader.accounts_eq, eq_false_of_ne_true haccounts]
      rfl
    refine .pure ?_
    rintro _ rfl
    refine ⟨hreader.source_eq, hreader.position_eq, hreader.limits_eq, hreader.accounts_eq, ?_,
      hreader.counts.metadataBytes_le, hreader.counts.arrayElements_eq,
      hreader.counts.arrayElements_le, hreader.faithful, hreader.since_le⟩
    rw [hcharge, Nat.add_zero, hmetadata]

theorem audits_fill (length : Nat) (context : String) :
    Triple (Pending source limits accounts since length) (fill length context)
      (fun _ => Audited source limits accounts since) (Stopped limits since) := by
  have hstopped {reader : GgufReader} (hs : Pending source limits accounts since length reader)
      (cause : IoError) :
      Stopped limits since (.fromIo context cause) reader :=
    ⟨hs.metadataBytes_le, hs.arrayElements_eq, hs.arrayElements_le,
      .inr ⟨_, context, cause, rfl, hs.metadataBytes_eq⟩, hs.faithful, hs.since_le⟩
  constructor
  case answers =>
    intro reader bytes next hs hrun
    rw [fill] at hrun
    split at hrun
    · cases hrun
    · split at hrun
      · cases hrun
      · cases hrun
        refine audited_note hs.source_eq hs.limits_eq hs.accounts_eq ?_
          ⟨?_, ?_, hs.metadataBytes_le, hs.arrayElements_le⟩
          hs.faithful hs.since_le
        · rw [consumed_append]
          exact congrArg (· + length) hs.position_eq
        · rw [charged_append, hs.accounts_eq]
          exact hs.metadataBytes_eq
        · rw [declared_append]
          exact hs.arrayElements_eq
  case fails =>
    intro reader error next hs hrun
    rw [fill] at hrun
    split at hrun
    · cases hrun
      exact hstopped hs _
    · split at hrun
      · cases hrun
        exact hstopped hs .unexpectedEof
      · cases hrun

theorem audits_readExact (length : Nat) (context : String) :
    Audits source limits accounts since (readExact length context) :=
  (audits_account length).bind fun _ => audits_fill length context

theorem audits_readNumber (width : Nat) (context : String) :
    Audits source limits accounts since (readNumber width context) :=
  (audits_readExact width context).bind fun _ => audits_looks (.read_bind fun _ => .lift _)

theorem audits_readString (context : String) :
    Audits source limits accounts since (readString context) :=
  (audits_readNumber 8 "string length").bind fun _ =>
    Audits.after (looks_checkLimit _ _ _) fun _ => Audits.after (.lift _) fun bytes =>
      Audits.after (looks_reserve _ _) fun _ =>
      (audits_readExact bytes context).bind fun _ => audits_looks (.lift _)

/-- A number that is turned into a value. -/
theorem Audits.map {α β : Type} {c : Reader α} (hc : Audits source limits accounts since c)
    (f : α → β) :
    Audits source limits accounts since (c >>= fun a => pure (f a)) :=
  hc.bind fun _ => .pure fun _ hs => hs

theorem audits_readScalar (type : GgufValueType) :
    Audits source limits accounts since (readScalar type) := by
  cases type with
  | u8 | i8 => exact (audits_readNumber 1 _).map _
  | u16 | i16 => exact (audits_readNumber 2 _).map _
  | u32 | i32 | f32 => exact (audits_readNumber 4 _).map _
  | u64 | i64 | f64 => exact (audits_readNumber 8 _).map _
  | bool => exact Audits.map ((audits_readNumber 1 _).bind fun _ => audits_looks (.lift _)) _
  | string => exact (audits_readString _).map _
  | array => exact audits_looks fun _ => rfl

theorem audits_admitArray {aggregate count : Nat} :
    Triple
      (fun reader => Audited source limits accounts since reader ∧
        aggregate = reader.arrayElements + count ∧
        aggregate ≤ limits.maxArrayElements) (admitArray aggregate count)
      (fun _ => Audited source limits accounts since) (Stopped limits since) := by
  refine Triple.bind (.looks (.lift _) fun error _ hs => audited_stopped hs.1 error)
    fun admitted => ?_
  refine (Triple.update ?_).bind fun _ => .pure fun _ hs => hs
  rintro reader ⟨hreader, rfl, hle⟩
  refine audited_note hreader.source_eq hreader.limits_eq hreader.accounts_eq ?_
    ⟨?_, ?_, hreader.counts.metadataBytes_le, hle⟩
    hreader.faithful hreader.since_le
  · rw [consumed_append]
    exact hreader.position_eq
  · rw [charged_append]
    exact hreader.counts.metadataBytes_eq
  · rw [declared_append]
    exact congrArg (· + count) hreader.counts.arrayElements_eq

theorem audits_aggregateElements (count : Nat) :
    Triple (Audited source limits accounts since) (aggregateElements count) (fun aggregate reader =>
      Audited source limits accounts since reader ∧ aggregate = reader.arrayElements + count ∧
      aggregate ≤ limits.maxArrayElements)
      (Stopped limits since) := by
  constructor
  case answers =>
    intro reader aggregate next hs hrun
    obtain ⟨_, _, hread, hrun⟩ := bind_ok_iff.mp hrun
    cases hread
    obtain ⟨sum, hsum, hrun⟩ := lift_bind_ok_iff.mp hrun
    obtain ⟨-, rfl⟩ := checkedAdd_eq_some.mp (okOr_eq_ok.mp hsum)
    obtain ⟨_, _, hcheck, hrun⟩ := bind_ok_iff.mp hrun
    obtain ⟨hle, rfl⟩ := Prod.mk.inj hcheck
    have hle := ensure_eq_ok.mp hle
    cases hrun
    rw [hs.limits_eq] at hle
    exact ⟨hs, rfl, hle⟩
  case fails =>
    intro reader error next hs hrun
    have hlooks : Audits source limits accounts since (aggregateElements count) :=
      audits_looks (looks_aggregateElements count)
    exact hlooks.fails hs hrun

theorem audits_checkArrayBudget (elementType : GgufValueType) (count : Nat) :
    Audits source limits accounts since (checkArrayBudget elementType count) :=
  (audits_aggregateElements count).bind fun _ =>
    (Triple.looks (looks_checkMinimumBytes elementType count) fun error _ hs =>
      audited_stopped hs.1 error).bind fun _ =>
      audits_admitArray

theorem audits_checkArrayElements (elementType : GgufValueType) (count : Nat) :
    Audits source limits accounts since (checkArrayElements elementType count) :=
  (audits_aggregateElements count).bind fun _ => audits_admitArray

section Parse
variable {budget : GgufValueType → Nat → Reader Nat}

theorem audits_readElement (elementType : GgufValueType) :
    Audits source limits accounts since (readElement elementType) :=
  (audits_readScalar elementType).bind fun _ => Audits.after (looks_reserve _ _) fun _ =>
    .pure fun _ hs => hs

theorem audits_readArray (hbudget : ∀ type count,
      Audits source limits accounts since (budget type count)) :
    Audits source limits accounts since (readArray budget) :=
  (audits_readNumber 4 _).bind fun _ => Audits.after (.lift _) fun type =>
    Audits.after (.lift _) fun _ =>
    (audits_readNumber 8 _).bind fun count => (hbudget type count).bind fun _ =>
      (Triple.collect (fun _ => audits_readElement type) _ _).bind fun _ => .pure fun _ hs => hs

theorem readValue_eq_readScalar {type : GgufValueType} (h : type ≠ .array) :
    readValue budget type = readScalar type := by
  cases type with
  | array => exact absurd rfl h
  | u8 | i8 | u16 | i16 | u32 | i32 | f32 | bool | string | u64 | i64 | f64 => rfl

theorem audits_readValue (hbudget : ∀ type count,
      Audits source limits accounts since (budget type count)) (type : GgufValueType) :
    Audits source limits accounts since (readValue budget type) := by
  by_cases harray : type = .array
  · rw [harray]
    exact audits_readArray hbudget
  · rw [readValue_eq_readScalar harray]
    exact audits_readScalar type

theorem audits_readEntries (hbudget : ∀ type count,
      Audits source limits accounts since (budget type count)) (n : Nat)
    (keys : List String) : Audits source limits accounts since (readEntries budget n keys) := by
  induction n generalizing keys with
  | zero => exact .pure fun _ hs => hs
  | succ n ih =>
      exact (audits_readString _).bind fun key => (audits_readNumber 4 _).bind fun _ =>
        Audits.after (.lift _) fun type =>
        (audits_readValue hbudget type).bind fun _ => Audits.after (looks_reserve _ _) fun _ =>
          Audits.after (looks_reserve _ _) fun _ => Audits.after (.lift _) fun _ =>
            Audits.after (looks_reserve _ _) fun _ =>
            (ih (key :: keys)).map _

/-- What is read as metadata leaves the accounting off. -/
theorem audits_accounted {α : Type} {c : Reader α} (h : Audits source limits true since c) :
    Audits source limits false since (GgufReader.accounted c) := by
  have hswitch (on off : Bool) : Triple (Audited source limits on since)
      (Command.update fun reader => { reader with accountMetadata := off } : Reader Unit)
      (fun _ => Audited source limits off since) (Stopped limits since) :=
    .update fun _ hs =>
      ⟨hs.source_eq, hs.limits_eq, rfl, hs.position_eq, hs.counts, hs.faithful, hs.since_le⟩
  exact (hswitch false true).bind fun _ => h.bind fun _ => (hswitch true false).bind fun _ =>
    .pure fun _ hs => hs

theorem audits_readTensor : Audits source limits false since readTensor :=
  (audits_accounted (audits_readString _)).bind fun _ => (audits_readNumber 4 _).bind fun _ =>
    Audits.after (.lift _) fun _ =>
    Audits.after (looks_checkLimit _ _ _) fun _ => Audits.after (.lift _) fun _ =>
      Audits.after (looks_reserve _ _) fun _ =>
      (Triple.collect (fun _ => audits_readNumber 8 _) _ _).bind fun _ =>
        (audits_readNumber 4 _).bind fun _ =>
        Audits.after (.lift _) fun _ => (audits_readNumber 8 _).bind fun _ =>
          Audits.after (.lift _) fun _ =>
          Audits.after (looks_reserve _ _) fun _ => .pure fun _ hs => hs

theorem audits_readDirectory (hbudget : ∀ type count,
      Audits source limits true since (budget type count)) :
    Audits source limits false since (readDirectory budget) :=
  (audits_readNumber 4 _).bind fun _ => Audits.after (.lift _) fun _ =>
    (audits_readNumber 8 _).bind fun _ =>
    (audits_readNumber 8 _).bind fun _ => Audits.after (looks_checkedCount _ _ _) fun _ =>
      Audits.after (looks_checkedCount _ _ _) fun _ =>
        (audits_accounted (audits_readEntries hbudget _ _)).bind fun _ =>
        Audits.after (.lift _) fun _ => (Triple.collect (fun _ => audits_readTensor) _ _).bind
          fun _ => .pure fun _ hs => hs

theorem audits_readMagic : Audits source limits accounts since readMagic := by
  have hswitch (endianness : Endianness) : Audits source limits accounts since
      (Command.update fun reader => { reader with endianness } : Reader Unit) :=
    .update fun _ hs =>
      ⟨hs.source_eq, hs.limits_eq, hs.accounts_eq, hs.position_eq, hs.counts,
        hs.faithful, hs.since_le⟩
  refine (audits_readExact 4 _).bind fun bytes => ?_
  split
  · exact hswitch .little
  · split
    · exact hswitch .big
    · exact audits_looks fun _ => rfl

theorem looks_streamPosition : streamPosition.Looks := by
  intro reader
  rw [streamPosition]
  split
  · rfl
  · rfl

theorem audits_seekEnd :
    Triple (Audited source limits accounts since) seekEnd (fun _ => Finished limits since)
      (Stopped limits since) := by
  constructor
  case answers =>
    intro reader length next hs hrun
    rw [seekEnd] at hrun
    split at hrun
    · cases hrun
    · cases hrun
      exact ⟨hs.counts, hs.faithful, hs.since_le⟩
  case fails =>
    intro reader error next hs hrun
    rw [seekEnd] at hrun
    split at hrun
    · cases hrun
      exact audited_stopped hs _
    · cases hrun

theorem finished_looks {α : Type} {c : Reader α} (h : c.Looks) :
    Triple (Finished limits since) c (fun _ => Finished limits since) (Stopped limits since) :=
  .looks h fun _ _ hs =>
    ⟨hs.counts.metadataBytes_le, hs.counts.arrayElements_eq, hs.counts.arrayElements_le,
      .inl hs.counts.metadataBytes_eq, hs.faithful, hs.since_le⟩

theorem audits_readWith (hbudget : ∀ type count,
      Audits source limits true since (budget type count)) :
    Triple (Audited source limits false since) (readWith budget) (fun _ => Finished limits since)
      (Stopped limits since) :=
  .read_bind fun _ hreader => .weaken
    (Audits.after (.lift _) fun _ => audits_readMagic.bind fun _ =>
      (audits_readDirectory hbudget).bind fun _ =>
      Audits.after looks_streamPosition fun _ => Audits.after (.lift _) fun _ =>
      audits_seekEnd.bind fun _ =>
        (finished_looks (.lift _)).bind fun _ => finished_looks (.read_bind fun _ => .lift _))
    (fun _ hs => hs ▸ hreader) (fun _ _ hs => hs) (fun _ _ hs => hs)

end Parse

/-! ### What an element costs -/

/-- At least so much is charged, and what is read is charged. -/
structure AtLeast (base : Nat) (reader : GgufReader) : Prop where
  accounts : reader.accountMetadata = true
  le : base ≤ reader.metadataBytes

/-- The command is charged with `cost` bytes or more. -/
abbrev Costs (cost : Nat) {α : Type} (c : Reader α) : Prop :=
  ∀ base, Triple (AtLeast base) c (fun _ => AtLeast (base + cost)) fun _ _ => True

theorem Costs.bind {α β : Type} {m n : Nat} {c : Reader α} {k : α → Reader β} (hc : Costs m c)
    (hk : ∀ a, Costs n (k a)) :
    Costs (m + n) (c >>= k) := fun base => by
  rw [← Nat.add_assoc]
  exact (hc base).bind fun a => hk a (base + m)

theorem Costs.looks {α : Type} {c : Reader α} (h : c.Looks) : Costs 0 c :=
  fun _ => .looks h fun _ _ _ => trivial

theorem Costs.less {α : Type} {m n : Nat} {c : Reader α} (h : Costs n c) (hle : m ≤ n) :
    Costs m c := fun base =>
  (h base).weaken (fun _ hs => hs)
    (fun _ _ hs => ⟨hs.accounts, (Nat.add_le_add_left hle base).trans hs.le⟩) fun _ _ hs => hs

theorem costs_readExact (length : Nat) (context : String) :
    Costs length (readExact length context) := by
  intro base
  constructor
  case answers =>
    intro reader bytes next hs hrun
    obtain ⟨_, middle, haccount, hfill⟩ := bind_ok_iff.mp hrun
    have hmiddle : AtLeast (base + length) middle := by
      rw [account, bind_of_ok (read_run _), if_pos hs.accounts] at haccount
      obtain ⟨total, htotal, haccount⟩ := lift_bind_ok_iff.mp haccount
      obtain ⟨-, rfl⟩ := checkedAdd_eq_some.mp (okOr_eq_ok.mp htotal)
      obtain ⟨_, _, hcheck, haccount⟩ := bind_ok_iff.mp haccount
      obtain ⟨-, rfl⟩ := Prod.mk.inj hcheck
      cases haccount
      exact ⟨hs.accounts, Nat.add_le_add_right hs.le length⟩
    rw [fill] at hfill
    split at hfill
    · cases hfill
    · split at hfill
      · cases hfill
      · cases hfill
        exact ⟨hmiddle.accounts, hmiddle.le⟩
  case fails => exact fun _ _ => trivial

theorem costs_readNumber (width : Nat) (context : String) :
    Costs width (readNumber width context) :=
  (costs_readExact width context).bind fun _ => .looks (.read_bind fun _ => .lift _)

theorem costs_readString (context : String) : Costs 8 (readString context) := by
  have hrest (length : Nat) : Costs 0 (readExact length context >>= fun bytes =>
      lift (okOr (String.fromUTF8? ⟨bytes.toArray⟩) (.invalidUtf8 context)) : Reader String) :=
    ((costs_readExact length context).bind fun _ => .looks (.lift _)).less (Nat.zero_le _)
  exact (costs_readNumber 8 _).bind (n := 0) fun _ =>
    (Costs.looks (looks_checkLimit _ _ _)).bind (n := 0) fun _ =>
    (Costs.looks (.lift _)).bind (n := 0) fun length =>
      (Costs.looks (looks_reserve _ _)).bind (n := 0) fun _ => hrest length

theorem Costs.map {α β : Type} {n : Nat} {c : Reader α} (hc : Costs n c) (f : α → β) :
    Costs n (c >>= fun a => pure (f a)) :=
  hc.bind fun _ => .looks fun _ => rfl

/-- An element costs no less than `check_array_budget` takes it for. -/
theorem costs_readScalar {type : GgufValueType} {minimum : Nat}
    (h : minimumElementBytes type = .ok minimum) :
    Costs minimum (readScalar type) := by
  cases type with
  | u8 | i8 =>
      cases h
      exact (costs_readNumber 1 _).map _
  | u16 | i16 =>
      cases h
      exact (costs_readNumber 2 _).map _
  | u32 | i32 | f32 =>
      cases h
      exact (costs_readNumber 4 _).map _
  | u64 | i64 | f64 =>
      cases h
      exact (costs_readNumber 8 _).map _
  | bool =>
      cases h
      exact Costs.map ((costs_readNumber 1 _).bind fun _ => .looks (.lift _)) _
  | string =>
      cases h
      exact (costs_readString _).map _
  | array => cases h

theorem costs_readElement {type : GgufValueType} {minimum : Nat}
    (h : minimumElementBytes type = .ok minimum) :
    Costs minimum (readElement type) :=
  (costs_readScalar h).bind fun _ => (Costs.looks (looks_reserve _ _)).bind fun _ =>
    .looks fun _ => rfl

theorem Costs.collect {α : Type} {cost : Nat} {body : Nat → Reader α} (h : ∀ i, Costs cost (body i))
    (i n : Nat) :
    Costs (n * cost) (Command.collect body i n) := by
  induction n generalizing i with
  | zero =>
      rw [Nat.zero_mul]
      exact .looks fun _ => rfl
  | succ n ih =>
      rw [Nat.succ_mul, Nat.add_comm]
      exact (h i).bind fun _ => (ih (i + 1)).map _

/-! ### With and without the test -/

/-- The elements of an array, once its count is let through. -/
def readElements (type : GgufValueType) (count : Nat) : Reader GgufValue := do
  let values ← Command.collect (fun _ => readElement type) 0 count
  pure (.array type values)

theorem audits_readElements (type : GgufValueType) (count : Nat) :
    Audits source limits accounts since (readElements type count) :=
  (Triple.collect (fun _ => audits_readElement type) 0 count).bind fun _ => .pure fun _ hs => hs

/-- Nothing is let through where the fewest bytes of the elements are more than the budget has left.
-/
theorem elements_unaffordable {type : GgufValueType} {aggregate count : Nat}
    {reader next last : GgufReader} {error : GgufError} {value : GgufValue}
    (hreader : Audited source limits true since reader)
    (haggregate : aggregate = reader.arrayElements + count)
    (hle : aggregate ≤ limits.maxArrayElements) (harray : type ≠ .array)
    (hcheck : checkMinimumBytes type count reader = (.error error, next)) :
    (admitArray aggregate count >>= readElements type) reader ≠ (.ok value, last) := by
  intro hrun
  obtain ⟨admitted, middle, hadmit, helements⟩ := bind_ok_iff.mp hrun
  have hmiddle : Audited source limits true since middle :=
    audits_admitArray.answers ⟨hreader, haggregate, hle⟩ hadmit
  obtain ⟨hadmitted, hbytes⟩ : admitted = count ∧ middle.metadataBytes = reader.metadataBytes := by
    obtain ⟨n, hn, hadmit⟩ := lift_bind_ok_iff.mp hadmit
    obtain ⟨-, rfl⟩ := ensure_pure_eq_ok.mp hn
    cases hadmit
    exact ⟨rfl, rfl⟩
  subst hadmitted
  obtain ⟨values, _, hcollect, hlast⟩ := bind_ok_iff.mp helements
  cases hlast
  obtain ⟨minimum, hminimum⟩ : ∃ minimum, minimumElementBytes type = .ok minimum := by
    cases type with
    | array => exact absurd rfl harray
    | u8 | i8 | u16 | i16 | u32 | i32 | f32 | bool | string | u64 | i64 | f64 => exact ⟨_, rfl⟩
  have hcost : AtLeast (reader.metadataBytes + admitted * minimum) last :=
    (Costs.collect (fun _ => costs_readElement hminimum) 0 admitted reader.metadataBytes).answers
      ⟨hmiddle.accounts_eq, hbytes.ge⟩ hcollect
  have haudit : Audited source limits true since last :=
    (Triple.collect (fun _ => audits_readElement type) 0 admitted).answers hmiddle hcollect
  have hbudget : reader.metadataBytes + admitted * minimum ≤ limits.maxMetadataBytes :=
    hcost.le.trans haudit.counts.metadataBytes_le
  have hwide := limits.maxMetadataBytes_le
  -- The test would have let them through.
  rw [checkMinimumBytes, bind_of_ok (read_run _), hminimum, bind_of_ok (lift_run _ _),
    checkedMul_of_le (by omega), okOr, bind_of_ok (lift_run _ _), checkedAdd_of_le (by omega), okOr,
    bind_of_ok (lift_run _ _), checkLimit, bind_of_ok (read_run _), hreader.limits_eq, ensure,
    if_pos hbudget] at hcheck
  cases hcheck

/-- A reader with the test, and the reader without it: they do the same, or both fail and the first
one has read less. -/
abbrev Earlier (P : GgufReader → Prop) {α : Type} (c d : Reader α) : Prop :=
  StopsEarlier (fun last last' : GgufReader => last.history <+: last'.history) P c d

theorem earlier_elements {type : GgufValueType} (harray : type ≠ .array) (count : Nat) :
    Earlier (Audited source limits true since) (checkArrayBudget type count >>= readElements type)
      (checkArrayElements type count >>= readElements type) := by
  intro reader hreader
  have hself : Audited source limits true reader.history reader :=
    ⟨hreader.source_eq, hreader.limits_eq, hreader.accounts_eq, hreader.position_eq, hreader.counts,
      hreader.faithful, List.prefix_rfl⟩
  rcases haggregate : aggregateElements count reader with ⟨aggregate, middle⟩
  obtain rfl := (looks_aggregateElements count).run haggregate
  cases aggregate with
  | error error =>
      have hguarded : checkArrayBudget type count middle = (.error error, middle) :=
        bind_of_error haggregate
      have hplain : checkArrayElements type count middle = (.error error, middle) :=
        bind_of_error haggregate
      left
      rw [bind_of_error hguarded, bind_of_error hplain]
  | ok aggregate =>
      obtain ⟨-, hsum, hle⟩ := (audits_aggregateElements count).answers hself haggregate
      have hguarded : (checkArrayBudget type count >>= readElements type) middle =
          (checkMinimumBytes type count >>= fun _ =>
            admitArray aggregate count >>= readElements type) middle := by
        rw [bind_run, checkArrayBudget, bind_of_ok haggregate, bind_run, bind_run]
        rcases checkMinimumBytes type count middle with ⟨_ | _, next⟩
        · rfl
        · rfl
      have hplain : (checkArrayElements type count >>= readElements type) middle =
          (admitArray aggregate count >>= readElements type) middle := by
        rw [bind_run, checkArrayElements, bind_of_ok haggregate, bind_run]
      rw [hguarded, hplain]
      rcases hcheck : checkMinimumBytes type count middle with ⟨_ | _, next⟩
      case ok =>
        obtain rfl := (looks_checkMinimumBytes type count).run hcheck
        left
        rw [bind_of_ok hcheck]
      case error error =>
        obtain rfl := (looks_checkMinimumBytes type count).run hcheck
        right
        rcases hrest : (admitArray aggregate count >>= readElements type) next with ⟨result, last⟩
        cases result with
        | ok value => exact absurd hrest (elements_unaffordable hself hsum hle harray hcheck)
        | error error' =>
            have hstopped :=
              (audits_admitArray.bind fun admitted => audits_readElements type admitted).fails
                ⟨hself, hsum, hle⟩ hrest
            exact ⟨error, error', next, last, bind_of_error hcheck, rfl, hstopped.since_le⟩

theorem earlier_readArray : Earlier (Audited source limits true since) (readArray checkArrayBudget)
    (readArray checkArrayElements) := by
  refine (StopsEarlier.refl _).bind (audits_readNumber 4 _) fun code => ?_
  refine (StopsEarlier.refl _).bind (audits_looks (.lift _)) fun type => ?_
  by_cases harray : type ≠ .array
  · rw [ensure, if_pos harray]
    refine (StopsEarlier.refl _).bind (audits_looks (.lift _)) fun _ => ?_
    exact (StopsEarlier.refl _).bind (audits_readNumber 8 _) fun count =>
      earlier_elements harray count
  · rw [ensure, if_neg harray]
    intro reader _
    exact .inl rfl

theorem earlier_readValue (type : GgufValueType) :
    Earlier (Audited source limits true since) (readValue checkArrayBudget type)
      (readValue checkArrayElements type) := by
  by_cases harray : type = .array
  · rw [harray]
    exact earlier_readArray
  · rw [readValue_eq_readScalar harray, readValue_eq_readScalar harray]
    exact .refl _

theorem earlier_readEntries (n : Nat) (keys : List String) :
    Earlier (Audited source limits true since) (readEntries checkArrayBudget n keys)
      (readEntries checkArrayElements n keys) := by
  induction n generalizing keys with
  | zero => exact .refl _
  | succ n ih =>
      exact (StopsEarlier.refl _).bind (audits_readString _) fun key =>
        (StopsEarlier.refl _).bind (audits_readNumber 4 _) fun _ =>
          (StopsEarlier.refl _).bind (audits_looks (.lift _)) fun type =>
          (earlier_readValue type).bind (audits_readValue audits_checkArrayBudget type) fun _ =>
            (StopsEarlier.refl _).bind (audits_looks (looks_reserve _ _)) fun _ =>
              (StopsEarlier.refl _).bind (audits_looks (looks_reserve _ _)) fun _ =>
                (StopsEarlier.refl _).bind (audits_looks (.lift _)) fun _ =>
                  (StopsEarlier.refl _).bind (audits_looks (looks_reserve _ _)) fun _ =>
                    (ih (key :: keys)).bind (audits_readEntries audits_checkArrayBudget n _)
                      fun _ => .refl _

theorem earlier_accounted {α : Type} {c d : Reader α}
    (h : Earlier (Audited source limits true since) c d) (hc : Audits source limits true since c) :
    Earlier (Audited source limits false since) (GgufReader.accounted c)
      (GgufReader.accounted d) := by
  have hswitch : Triple (Audited source limits false since)
      (Command.update fun reader => { reader with accountMetadata := true } : Reader Unit)
      (fun _ => Audited source limits true since) (Stopped limits since) :=
    .update fun _ hs =>
      ⟨hs.source_eq, hs.limits_eq, rfl, hs.position_eq, hs.counts, hs.faithful, hs.since_le⟩
  exact (StopsEarlier.refl _).bind hswitch fun _ => h.bind hc fun _ => .refl _

theorem earlier_readDirectory :
    Earlier (Audited source limits false since) (readDirectory checkArrayBudget)
      (readDirectory checkArrayElements) :=
  (StopsEarlier.refl _).bind (audits_readNumber 4 _) fun _ =>
    (StopsEarlier.refl _).bind (audits_looks (.lift _)) fun _ =>
    (StopsEarlier.refl _).bind (audits_readNumber 8 _) fun _ =>
      (StopsEarlier.refl _).bind (audits_readNumber 8 _) fun _ =>
      (StopsEarlier.refl _).bind (audits_looks (looks_checkedCount _ _ _)) fun _ =>
        (StopsEarlier.refl _).bind (audits_looks (looks_checkedCount _ _ _)) fun _ =>
          (earlier_accounted (earlier_readEntries _ _)
            (audits_readEntries audits_checkArrayBudget _ _)).bind
            (audits_accounted (audits_readEntries audits_checkArrayBudget _ _)) fun _ => .refl _

theorem earlier_readWith : Earlier (Audited source limits false since) (readWith checkArrayBudget)
    (readWith checkArrayElements) := by
  refine (StopsEarlier.refl _).bind (audits_looks fun _ => rfl) fun reader => ?_
  refine (StopsEarlier.refl _).bind (audits_looks (.lift _)) fun _ => ?_
  refine (StopsEarlier.refl _).bind audits_readMagic fun _ => ?_
  exact earlier_readDirectory.bind (audits_readDirectory audits_checkArrayBudget) fun _ => .refl _

theorem audited_withLimits (source : Source) (limits : ReaderLimits) :
    Audited source limits false [] (withLimits source limits) := by
  refine ⟨rfl, rfl, rfl, rfl, ⟨rfl, rfl, Nat.zero_le _, Nat.zero_le _⟩, ?_, List.prefix_rfl⟩
  intro front point rest hsplit
  exact absurd hsplit (by simp [withLimits])

/-- How a parse ends: the counters are right behind every event of its history, and at its end. -/
def Accounted (limits : ReaderLimits) : Except GgufError GgufFile × GgufReader → Prop
  | (.ok _, last) =>
      Faithful limits last.history ∧
        Counts limits last.history last.metadataBytes last.arrayElements
  | (.error error, last) => Stopped limits [] error last

end GgufReader

/-- The budget of arrays is exact. Without the test of the fewest bytes the reader accepts the same
files as what they are, and where the test rejects one it has read no more; and at every point of a
parse the counters are the bytes that were charged and the elements that were declared, inside their
limits. -/
theorem array_budget_exact (source : Source) (limits : ReaderLimits) :
    (∀ file, (∃ last, GgufReader.read (.withLimits source limits) = (.ok file, last)) ↔
      ∃ last, GgufReader.readWith GgufReader.checkArrayElements (.withLimits source limits) =
      (.ok file, last)) ∧
    (GgufReader.read (.withLimits source limits) =
        GgufReader.readWith GgufReader.checkArrayElements (.withLimits source limits) ∨
      ∃ error error' last last', GgufReader.read (.withLimits source limits) =
      (.error error, last) ∧
        GgufReader.readWith GgufReader.checkArrayElements (.withLimits source limits) =
        (.error error', last') ∧
          last.history <+: last'.history) ∧
    GgufReader.Accounted limits (GgufReader.read (.withLimits source limits)) := by
  have hstart := GgufReader.audited_withLimits source limits
  refine ⟨?_, GgufReader.earlier_readWith _ hstart, ?_⟩
  · intro file
    exact exists_congr fun last => GgufReader.earlier_readWith.answers_iff hstart
  · have haudit : Triple (Audited source limits false []) GgufReader.read
        (fun _ => Finished limits []) (Stopped limits []) :=
      GgufReader.audits_readWith GgufReader.audits_checkArrayBudget
    rcases hrun : GgufReader.read (.withLimits source limits) with ⟨result, last⟩
    cases result with
    | ok file =>
        have hlast := haudit.answers hstart hrun
        exact ⟨hlast.faithful, hlast.counts⟩
    | error error => exact haudit.fails hstart hrun

end LightBridge.Gguf
