import OpenClHash.Library.LittleEndian
import OpenClHash.Library.Regions
import OpenClHash.Wrapper.Source

/-!
Owns what `platform_info` and `device_info` store in a `PlatformInfo` and a `DeviceInfo`:
the values OpenCL has, in the order of the queries, and the terminators behind the strings.
Addresses are counted from the start of the record, whose members lie as on a host of
64-bit pointers.

A call succeeds if its value fits in the size it is told. It then stores the value and
reports the length; a call that fails stores nothing and leaves `value_size` as it was.
-/

namespace OpenClHash.Wrapper

open OpenClHash.Library.Regions

/-! ### Queries -/

/-- A query with the member it fills, the size it is told, and whether the reported length is
where a terminator goes. -/
structure InfoQuery where
  call : ClCall
  field : Region
  told : Nat
  terminated : Bool

/-- A query and the value that OpenCL has for it. -/
structure InfoAnswer where
  query : InfoQuery
  value : List (BitVec 8)

namespace InfoAnswer

/-- The call and the store of the terminator; `valueSize` is the variable `value_size`. -/
def stores (answer : InfoAnswer) (valueSize : Nat) : List (Store (BitVec 8)) :=
  (if answer.value.length ≤ answer.query.told then [⟨answer.query.field.start, answer.value⟩]
    else []) ++
  if answer.query.terminated then [⟨answer.query.field.start + valueSize, [0#8]⟩] else []

/-- `value_size` after the call. -/
def reported (answer : InfoAnswer) (valueSize : Nat) : Nat :=
  if answer.query.terminated ∧ answer.value.length ≤ answer.query.told then answer.value.length
  else valueSize

end InfoAnswer

/-- The stores of queries in a row, for each member that is filled. -/
def fillsFrom : Nat → List InfoAnswer → List (Fill (BitVec 8))
  | _, [] => []
  | valueSize, answer :: rest =>
      let valueSize := answer.reported valueSize
      ⟨answer.query.field, answer.stores valueSize⟩ :: fillsFrom valueSize rest

/-- The memory after the queries. -/
def afterQueries (answers : List InfoAnswer) (memory : Nat → BitVec 8) : Nat → BitVec 8 :=
  applyAll ((fillsFrom 0 answers).flatMap Fill.stores) memory

/-- No store leaves the member that is filled, so that in the end every member holds its value
and the memory around the members is as it was. -/
structure FillsOnly (answers : List InfoAnswer) : Prop where
  contained : ∀ fill ∈ fillsFrom 0 answers, fill.Contained
  holds : ∀ answer ∈ answers, answer.value.length ≤ answer.query.field.length ∧
    ∀ memory, load (afterQueries answers memory)
      ⟨answer.query.field.start, answer.value.length⟩ = answer.value
  around : ∀ memory address, (∀ answer ∈ answers, ¬ answer.query.field.Covers address) →
    afterQueries answers memory address = memory address

/-! ### Members that are large enough -/

namespace InfoAnswer

/-- The member has room for the value and for the terminator behind it. -/
def Fits (answer : InfoAnswer) : Prop :=
  answer.value.length + (if answer.query.terminated then 1 else 0) ≤ answer.query.field.length

/-- What a query stores that succeeds. -/
def filled (answer : InfoAnswer) : Fill (BitVec 8) where
  region := answer.query.field
  stores := ⟨answer.query.field.start, answer.value⟩ ::
    if answer.query.terminated then
      [⟨answer.query.field.start + answer.value.length, [0#8]⟩] else []

variable {answer : InfoAnswer}

theorem Fits.length_le (fits : answer.Fits) : answer.value.length ≤ answer.query.field.length :=
  (Nat.le_add_right _ _).trans fits

theorem filled_contained_iff : answer.filled.Contained ↔ answer.Fits := by
  unfold Fill.Contained filled Fits
  cases answer.query.terminated with
  | false => simp [Store.region, Region.Inside]
  | true =>
      simp [Store.region, Region.Inside]
      omega

theorem load_filled (memory : Nat → BitVec 8) :
    load (applyAll answer.filled.stores memory)
      ⟨answer.query.field.start, answer.value.length⟩ = answer.value := by
  have stored := load_apply memory ⟨answer.query.field.start, answer.value⟩
  unfold filled
  cases answer.query.terminated with
  | false => exact stored
  | true =>
      refine Eq.trans ?_ stored
      apply List.map_congr_left
      intro index below
      apply apply_of_not_covers
      have below := List.mem_range.mp below
      unfold Region.Covers Store.region
      dsimp only at below ⊢
      omega

end InfoAnswer

section Records

variable {answers : List InfoAnswer}

theorem fillsFrom_filled
    (answered : ∀ answer ∈ answers, answer.value.length ≤ answer.query.told) (valueSize : Nat) :
    fillsFrom valueSize answers = answers.map InfoAnswer.filled := by
  induction answers generalizing valueSize with
  | nil => rfl
  | cons answer rest inductionHypothesis =>
      rw [List.forall_mem_cons] at answered
      rw [fillsFrom, List.map_cons, inductionHypothesis answered.2]
      congr 1
      unfold InfoAnswer.filled InfoAnswer.stores InfoAnswer.reported
      rw [if_pos answered.1]
      cases terminated : answer.query.terminated with
      | false => rfl
      | true =>
          have reports : true = true ∧ answer.value.length ≤ answer.query.told := ⟨rfl, answered.1⟩
          rw [if_pos reports]
          rfl

end Records

/-- The queries that fill a record: their members lie apart, and no query is told less than the
size of its member. -/
structure InfoRecord where
  queries : List InfoQuery
  apart : (queries.map InfoQuery.field).Pairwise Region.Apart
  told : ∀ query ∈ queries, query.field.length ≤ query.told

namespace InfoRecord

variable (record : InfoRecord) (values : List (List (BitVec 8)))

/-- The queries with these values, in their order. -/
def answers : List InfoAnswer := List.zipWith InfoAnswer.mk record.queries values

theorem queries_sublist (queries : List InfoQuery) (values : List (List (BitVec 8))) :
    ((List.zipWith InfoAnswer.mk queries values).map InfoAnswer.query).Sublist queries := by
  induction queries generalizing values with
  | nil => exact List.Sublist.refl []
  | cons query rest inductionHypothesis =>
      cases values with
      | nil => exact List.nil_sublist _
      | cons value values => exact (inductionHypothesis values).cons_cons query

theorem answers_apart : (record.answers values).Pairwise
    fun first second => first.query.field.Apart second.query.field := by
  have queries := record.apart.sublist ((queries_sublist record.queries values).map InfoQuery.field)
  rw [List.map_map] at queries
  exact List.pairwise_map.mp queries

theorem answers_told : ∀ answer ∈ record.answers values,
    answer.query.field.length ≤ answer.query.told := by
  intro answer member
  apply record.told
  exact (queries_sublist record.queries values).subset (List.mem_map_of_mem member)

/-- The queries fill only their members exactly if these have room for the values and for the
terminators behind them. -/
theorem fillsOnly_iff :
    FillsOnly (record.answers values) ↔ ∀ answer ∈ record.answers values, answer.Fits := by
  have told := record.answers_told values
  have apart := record.answers_apart values
  generalize record.answers values = answers at told apart ⊢
  constructor
  · intro only answer member
    have answered : ∀ answer ∈ answers, answer.value.length ≤ answer.query.told :=
      fun answer member => (only.holds answer member).1.trans (told answer member)
    have contained := only.contained answer.filled
    rw [fillsFrom_filled answered] at contained
    exact InfoAnswer.filled_contained_iff.mp (contained (List.mem_map_of_mem member))
  · intro fits
    have answered : ∀ answer ∈ answers, answer.value.length ≤ answer.query.told :=
      fun answer member => (fits answer member).length_le.trans (told answer member)
    have contained : ∀ fill ∈ answers.map InfoAnswer.filled, fill.Contained := by
      intro fill member
      obtain ⟨answer, among, rfl⟩ := List.mem_map.mp member
      exact InfoAnswer.filled_contained_iff.mpr (fits answer among)
    have apartFills : (answers.map InfoAnswer.filled).Pairwise
        fun first second => first.region.Apart second.region := List.pairwise_map.mpr apart
    have same := fillsFrom_filled answered 0
    refine ⟨same ▸ contained, ?_, ?_⟩
    · intro answer member
      refine ⟨(fits answer member).length_le, ?_⟩
      intro memory
      have inside : Region.Inside ⟨answer.query.field.start, answer.value.length⟩
          answer.query.field :=
        ⟨Nat.le_refl _, Nat.add_le_add_left (fits answer member).length_le _⟩
      rw [afterQueries, same, load_fills apartFills contained (List.mem_map_of_mem member) inside]
      exact InfoAnswer.load_filled memory
    · intro memory address outside
      rw [afterQueries, same]
      apply applyAll_fills_outside contained
      intro fill member
      obtain ⟨answer, among, rfl⟩ := List.mem_map.mp member
      exact outside answer among

end InfoRecord

/-! ### `PlatformInfo` and `DeviceInfo` -/

/-- `MAX_INFO_STRING_LEN`. -/
def maxInfoStringLen : Nat := 256

namespace PlatformFields

def name : Region := ⟨0, maxInfoStringLen⟩
def vendor : Region := ⟨256, maxInfoStringLen⟩
def version : Region := ⟨512, maxInfoStringLen⟩

/-- The members of `PlatformInfo`, in the order of their declaration. -/
theorem placed : place 0 [(maxInfoStringLen, 1), (maxInfoStringLen, 1), (maxInfoStringLen, 1)] =
    [name, vendor, version] := rfl

end PlatformFields

namespace DeviceFields

def type : Region := ⟨0, 8⟩
def name : Region := ⟨8, maxInfoStringLen⟩
def globalMemSize : Region := ⟨264, 8⟩
def addressBits : Region := ⟨272, 4⟩
def maxWorkGroupSize : Region := ⟨280, 8⟩
def workItemsForDims : Region := ⟨288, 24⟩
def imageSupport : Region := ⟨312, 4⟩

/-- The members of `DeviceInfo`, in the order of their declaration. -/
theorem placed :
    place 0 [(8, 8), (maxInfoStringLen, 1), (8, 8), (4, 4), (8, 8), (3 * 8, 8), (4, 4)] =
      [type, name, globalMemSize, addressBits, maxWorkGroupSize, workItemsForDims,
        imageSupport] := rfl

end DeviceFields

/-- The calls of `platform_info`. -/
def platformInfoQueries : List InfoQuery :=
  [⟨.getPlatformInfo "CL_PLATFORM_NAME", PlatformFields.name, maxInfoStringLen, true⟩,
    ⟨.getPlatformInfo "CL_PLATFORM_VENDOR", PlatformFields.vendor, maxInfoStringLen, true⟩,
    ⟨.getPlatformInfo "CL_PLATFORM_VERSION", PlatformFields.version, maxInfoStringLen, true⟩]

/-- The calls of `device_info`. -/
def deviceInfoQueries : List InfoQuery :=
  [⟨.getDeviceInfo "CL_DEVICE_GLOBAL_MEM_SIZE", DeviceFields.globalMemSize, 1024, false⟩,
    ⟨.getDeviceInfo "CL_DEVICE_IMAGE_SUPPORT", DeviceFields.imageSupport, 1024, false⟩,
    ⟨.getDeviceInfo "CL_DEVICE_MAX_WORK_GROUP_SIZE", DeviceFields.maxWorkGroupSize, 1024, false⟩,
    ⟨.getDeviceInfo "CL_DEVICE_ADDRESS_BITS", DeviceFields.addressBits, 1024, false⟩,
    ⟨.getDeviceInfo "CL_DEVICE_MAX_WORK_ITEM_SIZES", DeviceFields.workItemsForDims, 1024, false⟩,
    ⟨.getDeviceInfo "CL_DEVICE_TYPE", DeviceFields.type, 1024, false⟩,
    ⟨.getDeviceInfo "CL_DEVICE_NAME", DeviceFields.name, maxInfoStringLen, true⟩]

/-- These are the calls that `issueAll` makes for the two functions. -/
theorem queries_issued :
    platformInfoQueries.map InfoQuery.call = platformQueries ∧
      deviceInfoQueries.map InfoQuery.call = deviceQueries := ⟨rfl, rfl⟩

theorem platformInfoQueries_apart :
    (platformInfoQueries.map InfoQuery.field).Pairwise Region.Apart := by
  show [PlatformFields.name, PlatformFields.vendor, PlatformFields.version].Pairwise _
  rw [← PlatformFields.placed]
  exact place_apart (by decide) 0

/-- The queries are made in another order than that of the members. -/
theorem deviceInfoQueries_apart :
    (deviceInfoQueries.map InfoQuery.field).Pairwise Region.Apart := by
  have declared : [DeviceFields.type, DeviceFields.name, DeviceFields.globalMemSize,
      DeviceFields.addressBits, DeviceFields.maxWorkGroupSize, DeviceFields.workItemsForDims,
      DeviceFields.imageSupport].Pairwise Region.Apart := by
    rw [← DeviceFields.placed]
    exact place_apart (by decide) 0
  exact (List.Perm.pairwise_iff Region.Apart.symm (by decide)).mp declared

theorem platformInfoQueries_told :
    ∀ query ∈ platformInfoQueries, query.field.length ≤ query.told := by decide

theorem deviceInfoQueries_told :
    ∀ query ∈ deviceInfoQueries, query.field.length ≤ query.told := by decide

/-- A `PlatformInfo`. -/
def platformRecord : InfoRecord :=
  ⟨platformInfoQueries, platformInfoQueries_apart, platformInfoQueries_told⟩

/-- A `DeviceInfo`. -/
def deviceRecord : InfoRecord :=
  ⟨deviceInfoQueries, deviceInfoQueries_apart, deviceInfoQueries_told⟩

/-! ### Reports -/

/-- A string as OpenCL stores it. -/
def cString (text : List (BitVec 8)) : List (BitVec 8) := text ++ [0#8]

/-- An integer of `count` bytes in memory order on a little-endian host. -/
def littleEndian {width : Nat} (count : Nat) (value : BitVec width) : List (BitVec 8) :=
  (List.range count).map fun index => value.extractLsb' (8 * index) 8

/-- What a platform reports; the strings are without their terminating NUL. -/
structure PlatformReport where
  name : List (BitVec 8)
  vendor : List (BitVec 8)
  version : List (BitVec 8)

/-- What a device reports. -/
structure DeviceReport where
  globalMemSize : BitVec 64
  imageSupport : BitVec 32
  maxWorkGroupSize : BitVec 64
  addressBits : BitVec 32
  maxWorkItemSizes : List (BitVec 64)
  type : BitVec 64
  name : List (BitVec 8)

/-- The queries of `platform_info` with their values. -/
def PlatformReport.answers (report : PlatformReport) : List InfoAnswer :=
  platformRecord.answers [cString report.name, cString report.vendor, cString report.version]

/-- The queries of `device_info` with their values. -/
def DeviceReport.answers (report : DeviceReport) : List InfoAnswer :=
  deviceRecord.answers
    [littleEndian 8 report.globalMemSize, littleEndian 4 report.imageSupport,
      littleEndian 8 report.maxWorkGroupSize, littleEndian 4 report.addressBits,
      report.maxWorkItemSizes.flatMap (littleEndian 8), littleEndian 8 report.type,
      cString report.name]

@[simp] theorem cString_length (text : List (BitVec 8)) :
    (cString text).length = text.length + 1 := List.length_append

@[simp] theorem littleEndian_length {width : Nat} (count : Nat) (value : BitVec width) :
    (littleEndian count value).length = count := Library.LittleEndian.bytes_length count value

theorem workItemSizes_length (sizes : List (BitVec 64)) :
    (sizes.flatMap (littleEndian 8)).length = 8 * sizes.length := by
  simp [List.length_flatMap, Nat.mul_comm]

theorem platformInfo_fillsOnly_iff (report : PlatformReport) :
    FillsOnly report.answers ↔
      (cString report.name).length < maxInfoStringLen ∧
        (cString report.vendor).length < maxInfoStringLen ∧
        (cString report.version).length < maxInfoStringLen := by
  rw [PlatformReport.answers, InfoRecord.fillsOnly_iff]
  simp only [InfoRecord.answers, platformRecord, platformInfoQueries, List.zipWith,
    List.forall_mem_cons, List.not_mem_nil, false_implies, implies_true, and_true,
    InfoAnswer.Fits, if_true]
  exact Iff.rfl

theorem deviceInfo_fillsOnly_iff (report : DeviceReport) :
    FillsOnly report.answers ↔
      (cString report.name).length < maxInfoStringLen ∧ report.maxWorkItemSizes.length ≤ 3 := by
  rw [DeviceReport.answers, InfoRecord.fillsOnly_iff]
  simp only [InfoRecord.answers, deviceRecord, deviceInfoQueries, List.zipWith,
    List.forall_mem_cons, List.not_mem_nil, false_implies, implies_true, and_true,
    InfoAnswer.Fits, if_true, Bool.false_eq_true, if_false, littleEndian_length,
    workItemSizes_length]
  simp only [DeviceFields.type, DeviceFields.name, DeviceFields.globalMemSize,
    DeviceFields.addressBits, DeviceFields.maxWorkGroupSize, DeviceFields.workItemsForDims,
    DeviceFields.imageSupport]
  omega

/-- Each of the two functions fills only the members of its record exactly if there is room for
a second NUL behind each string and the device has no more than three dimensions. -/
theorem infoQueries_fillOnly_iff (platform : PlatformReport) (device : DeviceReport) :
    (FillsOnly platform.answers ↔
      (cString platform.name).length < maxInfoStringLen ∧
        (cString platform.vendor).length < maxInfoStringLen ∧
        (cString platform.version).length < maxInfoStringLen) ∧
    (FillsOnly device.answers ↔
      (cString device.name).length < maxInfoStringLen ∧ device.maxWorkItemSizes.length ≤ 3) :=
  ⟨platformInfo_fillsOnly_iff platform, deviceInfo_fillsOnly_iff device⟩

/-- A device of four dimensions, all of whose work-item sizes are 64. -/
def fourDimensions : DeviceReport where
  globalMemSize := 4096#64
  imageSupport := 1#32
  maxWorkGroupSize := 64#64
  addressBits := 32#32
  maxWorkItemSizes := [64#64, 64#64, 64#64, 64#64]
  type := 4#64
  name := []

/-- The fourth size goes where `image_support` was stored before. -/
theorem fourDimensions_overwrite :
    ¬ ∀ (platform : PlatformReport) (device : DeviceReport),
      (cString platform.name).length ≤ maxInfoStringLen →
      (cString platform.vendor).length ≤ maxInfoStringLen →
      (cString platform.version).length ≤ maxInfoStringLen →
      (cString device.name).length ≤ maxInfoStringLen → 3 ≤ device.maxWorkItemSizes.length →
      FillsOnly platform.answers ∧ FillsOnly device.answers := by
  intro always
  obtain ⟨_, only⟩ := always ⟨[], [], []⟩ fourDimensions (by decide) (by decide) (by decide)
    (by decide) (by decide)
  have few := ((deviceInfo_fillsOnly_iff fourDimensions).mp only).2
  exact absurd few (by decide)

end OpenClHash.Wrapper
