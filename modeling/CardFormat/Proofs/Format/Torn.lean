/-
This file proves what is left of a format when the device stops taking writes. A card goes
to the device in blocks, front to back, one write for each block that it touches. So if the
device takes fewer writes, it holds that many blocks of what it was going to hold, and
behind them what it held before; the format fails and the device stays open. If the device
takes as many, the format is the same as on a device without a limit.
-/

import CardFormat.Proofs.Format.Refusal
import CardFormat.Proofs.Format.Stretches

namespace CardFormat

open Formatting

/-! ### The card -/

section

variable {preparation : Preparation} {signature serial : UInt32} {table : PartitionTable}
  {placements : List Placement} {fields : List Field} {origin : MemoryDevice}

namespace VolumeOf

/-- The writes of a card: one for each block that it touches. -/
theorem cardWrites_eq {params : Params} {label : Label}
    (volume : VolumeOf params label serial placements fields) :
    cardWrites placements =
      (Stream.stop sectorBytes fields + blockBytes - 1) / blockBytes := by
  have counted := Writer.placementWrites_of_le (volume.joins.rising _ volume.rising) volume.narrow
  rw [show sectorBytes / blockBytes = 0 from rfl, Nat.zero_add, volume.joins.stop_eq] at counted
  rw [cardWrites, counted, volume.joins.stop_eq, Writer.div_add_flushWrites]

theorem length_laidAll {params : Params} {label : Label}
    (volume : VolumeOf params label serial placements fields) (table : PartitionTable) :
    (Stream.laidAll table.encode fields).length = Stream.stop sectorBytes fields := by
  have rising := volume.rising
  rw [← table.length_encode] at rising ⊢
  exact Stream.length_laidAll rising

end VolumeOf

/-- A device that takes the writes of the card holds it. -/
theorem writeCard_within (volume : VolumeOf preparation.params preparation.label serial placements
      fields)
    (tableResult : PartitionTable.ofParams preparation.params signature false = .ok table)
    (opened : origin.closed = false)
    (enough : ∀ bound, origin.writeLimit = some bound →
      origin.writes.length + cardWrites placements ≤ bound)
    (room : origin.regularFile = true ∨
      Stream.stop sectorBytes fields ≤ origin.sectors * sectorBytes) :
    ∃ final, throughWriter (writeCard preparation ⟨.ok signature, serial⟩) origin =
        .ok (signature, Stream.stop sectorBytes fields) final ∧
      origin.Written (Stream.laidAll table.encode fields) final := by
  obtain ⟨final, result, recorded⟩ := writeCard_eq_ok
    (MemoryDevice.takes_recorded blockBytes (fun _ => opened) enough room) (Nat.le_refl _)
    (origin.recorded_nil _) tableResult volume.placed volume.joins volume.rising volume.narrow
    volume.whole (Nat.le_refl _) (Nat.le_refl _)
  exact ⟨final, result, recorded.toWritten⟩

/-- A device that takes fewer writes holds as many blocks of the card. -/
theorem writeCard_torn (volume : VolumeOf preparation.params preparation.label serial placements
      fields)
    (tableResult : PartitionTable.ofParams preparation.params signature false = .ok table)
    (opened : origin.closed = false) {most bound : Nat} (limited : origin.writeLimit = some bound)
    (left : origin.writes.length + most = bound) (few : most < cardWrites placements)
    (room : origin.regularFile = true ∨
      Stream.stop sectorBytes fields ≤ origin.sectors * sectorBytes) :
    ∃ error final,
      throughWriter (writeCard preparation ⟨.ok signature, serial⟩) origin =
        .error (.refused (.filesystemFailed error)) final ∧
      most * blockBytes < Stream.stop sectorBytes fields ∧
      origin.Written ((Stream.laidAll table.encode fields).take (most * blockBytes)) final := by
  have allowed : ∀ other, origin.writeLimit = some other → origin.writes.length + most ≤ other := by
    intro other equal
    rw [limited] at equal
    cases equal
    exact Nat.le_of_eq left
  obtain ⟨error, final, result, blocks, inside, recorded⟩ := writeCard_eq_error
    (MemoryDevice.takes_recorded blockBytes (fun _ => opened) allowed room)
    (MemoryDevice.stops_recorded blockBytes limited (Nat.le_of_eq left.symm)) (Nat.le_refl _)
    (origin.recorded_nil _) tableResult volume.placed volume.joins volume.rising volume.narrow
    (Nat.le_refl _) few
  -- Every write has put down one block.
  have count := recorded.count_eq
  rw [List.length_take, Nat.min_eq_left (Nat.le_of_lt inside)] at count
  obtain rfl : most = blocks := by
    unfold blockBytes at count
    omega
  rw [volume.length_laidAll] at inside
  exact ⟨error, final, result, inside, recorded.toWritten⟩

end

/-! ### The device that is written -/

namespace MemoryDevice

/-- The device as it is, but told to fail after a number of writes, or never. -/
def limited (device : MemoryDevice) (limit : Option Nat) : MemoryDevice :=
  { device with writeLimit := limit }

variable {options : FormatOptions} {device sized : MemoryDevice} {sectors : Nat}

/-- A device is given its size whatever it is told that has nothing to do with sizes. -/
theorem giveSize_told {tell : MemoryDevice → MemoryDevice}
    (sectors_eq : ∀ device, (tell device).sectors = device.sectors)
    (obstacle_eq : ∀ device, (tell device).truncateObstacle = device.truncateObstacle)
    (truncated_eq : ∀ device sectors, (tell device).truncated sectors =
      tell (device.truncated sectors))
    {requested : Option Nat} (gives : giveSize requested device = .ok () sized) :
    giveSize requested (tell device) = .ok () (tell sized) := by
  by_cases new : device.sectors = 0
  · cases requested with
    | none =>
      cases gives
      rfl
    | some requested =>
      obtain ⟨free, rfl⟩ := truncate_eq_ok_iff.1 (truncate_of_giveSize new gives)
      rw [giveSize_of_new (show BlockDevice.sectorCount (tell device) = 0 from
        (sectors_eq device).trans new)]
      have resized : (BlockDevice.truncate requested : DeviceAction MemoryDevice Unit)
          (tell device) = .ok () (tell (device.truncated requested)) :=
        truncate_eq_ok_iff.2 ⟨(obstacle_eq device).trans free, (truncated_eq _ _).symm⟩
      exact ofAction_of_ok resized _
  · rw [giveSize_of_sized new] at gives
    cases gives
    have told : BlockDevice.sectorCount (tell device) ≠ 0 :=
      fun zero => new ((sectors_eq device).symm.trans zero)
    exact giveSize_of_sized told requested

/-- A device that has its size has room for it, or grows. -/
theorem room_of_giveSize {requested : Option Nat}
    (chosen : chosenCapacity requested device.sectors = .ok sectors)
    (gives : giveSize requested device = .ok () sized) :
    sized.regularFile = true ∨ sectors ≤ sized.sectors := by
  cases requested with
  | none =>
    cases gives
    cases chosen
    exact .inr (Nat.le_refl _)
  | some requested =>
    obtain ⟨rfl, -, -, enough⟩ := chosenCapacity_some_eq_ok_iff.1 chosen
    by_cases new : device.sectors = 0
    · obtain ⟨free, rfl⟩ := truncate_eq_ok_iff.1 (truncate_of_giveSize new gives)
      exact .inl (regularFile_of_truncate free)
    · rw [giveSize_of_sized new] at gives
      cases gives
      exact .inr (enough.resolve_left new)

/-- What a format has to know of a device that has its size. A new image held nothing, and so
nothing was cut off. -/
structure SizedTo (device : MemoryDevice) (sectors : Nat) (sized : MemoryDevice) : Prop where
  data_eq : sized.data.toList = device.data.toList
  writes_eq : sized.writes = device.writes
  closed_eq : sized.closed = device.closed
  closeFailure_eq : sized.closeFailure = device.closeFailure
  room : sized.regularFile = true ∨ sectors ≤ sized.sectors

theorem sizedTo_of_giveSize (held : device.data.size ≤ device.sectors * sectorBytes)
    {requested : Option Nat} (chosen : chosenCapacity requested device.sectors = .ok sectors)
    (gives : giveSize requested device = .ok () sized) : SizedTo device sectors sized := by
  have room := room_of_giveSize chosen gives
  by_cases new : device.sectors = 0
  · cases requested with
    | none =>
      cases gives
      exact ⟨rfl, rfl, rfl, rfl, room⟩
    | some requested =>
      obtain ⟨free, rfl⟩ := truncate_eq_ok_iff.1 (truncate_of_giveSize new gives)
      have empty : device.data.toList = [] := by
        rw [new, Nat.zero_mul, ← Content.length_toList] at held
        exact List.eq_nil_of_length_eq_zero (Nat.le_zero.1 held)
      refine ⟨?_, rfl, rfl, rfl, room⟩
      rw [truncated, Content.toList_take, empty, List.take_nil]
  · rw [giveSize_of_sized new] at gives
    cases gives
    exact ⟨rfl, rfl, rfl, rfl, room⟩

end MemoryDevice

/-! ### A format that is ready to write -/

/-- Nothing is in the way of the format until it writes the card: the device has its size, the
request is in order, and nothing is to be erased. How many writes the device takes has not
mattered so far. -/
structure Ready (options : FormatOptions) (device : MemoryDevice) (sectors : Nat)
    (sized : MemoryDevice) (preparation : Preparation) : Prop
    extends MemoryDevice.SizedTo device sectors sized where
  format_eq : ∀ limit sources, format options sources (device.limited limit) =
    carryOut options sources sectors preparation (sized.limited limit)
  noErase : options.erase = none
  planned : preparation.params.PlannedFor sectors
  labelled : Label.forFilesystem preparation.params.filesystem options.label = .ok preparation.label

theorem ready_of_accepted {options : FormatOptions} {device : MemoryDevice} {sectors : Nat}
    (real : options.dryRun = false) (noErase : options.erase = none)
    (held : device.data.size ≤ device.sectors * sectorBytes)
    (low : leastSectors ≤ sectors) (high : sectors ≤ 2 ^ 32)
    (accepted : ∃ sized, resolveCapacity options.capacity false device = .ok sectors sized)
    (labelled : ∀ warnings params,
      plan sectors options.forceFat32 options.bigClusters = .ok ⟨warnings, .ok params⟩ →
      ∃ label, Label.forFilesystem params.filesystem options.label = .ok label) :
    ∃ sized preparation, Ready options device sectors sized preparation := by
  obtain ⟨sized, settled⟩ := accepted
  obtain ⟨chosen, gives⟩ := chosenCapacity_of_resolved settled
  obtain ⟨preparation, prepared, planned, taken⟩ := prepare_eq_ok low high labelled
  refine ⟨sized, preparation, MemoryDevice.sizedTo_of_giveSize held chosen gives, ?_, noErase,
    planned, taken⟩
  intro limit sources
  exact format_of_prepared real
    (show chosenCapacity _ (BlockDevice.sectorCount (device.limited limit)) = _ from chosen)
    (@MemoryDevice.giveSize_told device sized (·.limited limit) (fun _ => rfl) (fun _ => rfl)
      (fun _ _ => rfl) _ gives) prepared sources

namespace Ready

variable {options : FormatOptions} {device sized : MemoryDevice} {sectors : Nat}
  {preparation : Preparation} {signature serial : UInt32} {table : PartitionTable}
  {placements : List Placement} {fields : List Field}

/-- The volume ends inside the capacity. -/
theorem stop_le (ready : Ready options device sectors sized preparation)
    (volume : VolumeOf preparation.params preparation.label serial placements fields) :
    Stream.stop sectorBytes fields ≤ sectors * sectorBytes :=
  Nat.le_trans volume.inside ready.planned.capacity_le

theorem card_room (ready : Ready options device sectors sized preparation)
    (volume : VolumeOf preparation.params preparation.label serial placements fields)
    (limit : Option Nat) :
    (sized.limited limit).regularFile = true ∨
      Stream.stop sectorBytes fields ≤ (sized.limited limit).sectors * sectorBytes := by
  refine ready.room.imp_right fun enough => ?_
  exact Nat.le_trans (ready.stop_le volume) (Nat.mul_le_mul_right _ enough)

theorem unwritten (ready : Ready options device sectors sized preparation)
    (fresh : device.writes = []) (limit : Option Nat) :
    (sized.limited limit).writes.length = 0 := by
  rw [show (sized.limited limit).writes = [] from ready.writes_eq.trans fresh, List.length_nil]

/-- A device that takes the writes of the card is closed with the card on it. -/
theorem within (ready : Ready options device sectors sized preparation)
    (volume : VolumeOf preparation.params preparation.label serial placements fields)
    (tableResult : PartitionTable.ofParams preparation.params signature false = .ok table)
    (fresh : device.writes = []) (opened : device.closed = false)
    (closes : device.closeFailure = none) {limit : Option Nat}
    (enough : ∀ bound, limit = some bound → cardWrites placements ≤ bound) :
    ∃ final, format options ⟨.ok signature, serial⟩ (device.limited limit) =
        .ok (preparation.finalReport ⟨.ok signature, serial⟩ sectors false [] signature
          (Stream.stop sectorBytes fields)) final ∧
      final.closed = true ∧
      final.data.toList = Stream.laidAll table.encode fields ++
        device.data.toList.drop (Stream.stop sectorBytes fields) := by
  obtain ⟨written, result, holds⟩ := writeCard_within volume tableResult
    (show (sized.limited limit).closed = false from ready.closed_eq.trans opened)
    (by rw [ready.unwritten fresh, Nat.zero_add]; exact enough) (ready.card_room volume limit)
  have closing : (BlockDevice.close : DeviceAction MemoryDevice Unit) written =
      .ok () { written with closed := true } := by
    refine MemoryDevice.proceed_eq_ok_iff.2 ⟨?_, rfl⟩
    rw [holds.kept]
    exact ready.closeFailure_eq.trans closes
  have data := holds.data_eq
  rw [volume.length_laidAll, show (sized.limited limit).data.toList = _ from ready.data_eq] at data
  rw [ready.format_eq]
  exact ⟨_, carryOut_eq_ok (eraseIfAsked_of_none ready.noErase _) result closing, rfl, data⟩

/-- A device that takes fewer writes stays open, with so many blocks of the card on it. -/
theorem torn (ready : Ready options device sectors sized preparation)
    (volume : VolumeOf preparation.params preparation.label serial placements fields)
    (tableResult : PartitionTable.ofParams preparation.params signature false = .ok table)
    (fresh : device.writes = []) (opened : device.closed = false) {most : Nat}
    (few : most < cardWrites placements) :
    ∃ error final, format options ⟨.ok signature, serial⟩ (device.limited (some most)) =
        .error (.refused (.filesystemFailed error)) final ∧
      final.closed = false ∧ most * blockBytes < Stream.stop sectorBytes fields ∧
      final.data.toList = (Stream.laidAll table.encode fields).take (most * blockBytes) ++
        device.data.toList.drop (most * blockBytes) := by
  have closed : (sized.limited (some most)).closed = false := ready.closed_eq.trans opened
  obtain ⟨error, final, result, inside, holds⟩ := writeCard_torn volume tableResult closed
    (show (sized.limited (some most)).writeLimit = some most from rfl)
    (by rw [ready.unwritten fresh, Nat.zero_add]) few (ready.card_room volume _)
  have data := holds.data_eq
  rw [List.length_take, volume.length_laidAll, Nat.min_eq_left (Nat.le_of_lt inside),
    show (sized.limited (some most)).data.toList = _ from ready.data_eq] at data
  rw [ready.format_eq]
  exact ⟨error, final, carryOut_eq_error (eraseIfAsked_of_none ready.noErase _) result,
    holds.closed_eq.trans closed, inside, data⟩

end Ready

/-! ### What is left -/

/-- What lies behind the front of a device is as it was. -/
theorem drop_append_drop {front old : List UInt8} {size stop : Nat} (length_eq : front.length = stop)
    (short : stop ≤ size) : (front ++ old.drop stop).drop size = old.drop size := by
  subst length_eq
  rw [List.drop_append, List.drop_eq_nil_of_le short, List.nil_append, List.drop_drop,
    Nat.add_sub_cancel' short]

/-- A format writes a card front to back, one write for each block that it touches. On a device
that takes as many writes, whatever it was told, the format is the same as without a limit. On
one that takes fewer, writing the filesystem fails, and the device stays open and holds so many
blocks of what it was to hold, and behind them what it held before. Nothing behind the capacity
changes. -/
theorem torn_format {options : FormatOptions} {device : MemoryDevice} {sectors : Nat}
    (real : options.dryRun = false) (noErase : options.erase = none)
    (fresh : device.writes = []) (opened : device.closed = false)
    (closes : device.closeFailure = none)
    (held : device.data.size ≤ device.sectors * sectorBytes)
    (low : leastSectors ≤ sectors) (high : sectors ≤ 2 ^ 32)
    (accepted : ∃ sized, resolveCapacity options.capacity false device = .ok sectors sized)
    (labelled : ∀ warnings params,
      plan sectors options.forceFat32 options.bigClusters = .ok ⟨warnings, .ok params⟩ →
      ∃ label, Label.forFilesystem params.filesystem options.label = .ok label)
    (signature serial : UInt32) :
    ∃ report reference,
      format options ⟨.ok signature, serial⟩ (device.limited none) = .ok report reference ∧
      report.deviceSectors = sectors ∧ reference.closed = true ∧
      0 < report.bytesWritten ∧ report.bytesWritten ≤ sectors * sectorBytes ∧
      reference.data.toList.drop (sectors * sectorBytes) =
        device.data.toList.drop (sectors * sectorBytes) ∧
      (∀ most, (report.bytesWritten + blockBytes - 1) / blockBytes ≤ most →
        ∃ final, format options ⟨.ok signature, serial⟩ (device.limited (some most)) =
            .ok report final ∧
          final.closed = true ∧ final.data.toList = reference.data.toList) ∧
      ∀ most, most < (report.bytesWritten + blockBytes - 1) / blockBytes →
        ∃ error final, format options ⟨.ok signature, serial⟩ (device.limited (some most)) =
            .error (.refused (.filesystemFailed error)) final ∧
          final.closed = false ∧ most * blockBytes < report.bytesWritten ∧
          final.data.toList = reference.data.toList.take (most * blockBytes) ++
            device.data.toList.drop (most * blockBytes) ∧
          final.data.toList.drop (sectors * sectorBytes) =
            device.data.toList.drop (sectors * sectorBytes) := by
  obtain ⟨sized, preparation, ready⟩ :=
    ready_of_accepted real noErase held low high accepted labelled
  obtain ⟨table, tableResult⟩ := ready.planned.usable.partitionTable_eq_ok signature false
  obtain ⟨placements, fields, volume⟩ := volumeOf_planned ready.planned ready.labelled serial
  have length_eq := volume.length_laidAll table
  have ends := ready.stop_le volume
  have unlimited : ∀ bound, none = some bound → cardWrites placements ≤ bound := by
    intro bound impossible
    cases impossible
  obtain ⟨reference, reported, ended, whole⟩ :=
    ready.within volume tableResult fresh opened closes unlimited
  refine ⟨_, reference, reported, rfl, ended, ?_, ends, ?_, ?_, ?_⟩
  · exact Nat.lt_of_lt_of_le (by decide) (Stream.le_stop volume.rising)
  · rw [whole]
    exact drop_append_drop length_eq ends
  · intro most enough
    have allowed : ∀ bound, some most = some bound → cardWrites placements ≤ bound := by
      intro bound equal
      cases equal
      exact Nat.le_trans (Nat.le_of_eq volume.cardWrites_eq) enough
    obtain ⟨final, result, closed, data⟩ :=
      ready.within volume tableResult fresh opened closes allowed
    exact ⟨final, result, closed, data.trans whole.symm⟩
  · intro most few
    obtain ⟨error, final, result, closed, inside, data⟩ := ready.torn volume tableResult fresh
      opened (Nat.lt_of_lt_of_le few (Nat.le_of_eq volume.cardWrites_eq.symm))
    have before := Nat.le_of_lt inside
    refine ⟨error, final, result, closed, inside, ?_, ?_⟩
    · rw [data, whole, List.take_append_of_le_length (length_eq.symm ▸ before)]
    · rw [data]
      refine drop_append_drop ?_ (Nat.le_trans before ends)
      rw [List.length_take, length_eq, Nat.min_eq_left before]

/-- A card of half a mebibyte is formatted with one write, and without it is as it was. -/
theorem torn_format_halfMebibyte :
    ∃ report reference,
      format { label := some "DATA" } ⟨.ok 5, 7⟩ ((MemoryDevice.card 1024).limited none) =
        .ok report reference ∧ report.deviceSectors = 1024 ∧
      ∃ error final,
        format { label := some "DATA" } ⟨.ok 5, 7⟩ ((MemoryDevice.card 1024).limited (some 0)) =
          .error (.refused (.filesystemFailed error)) final ∧ final.data.toList = [] := by
  obtain ⟨report, reference, result, capacity, -, positive, -, -, -, torn⟩ :=
    @torn_format { label := some "DATA" } (MemoryDevice.card 1024) 1024 rfl rfl rfl rfl rfl
      (Nat.zero_le _) (by decide) (by decide) ⟨MemoryDevice.card 1024, rfl⟩ (by
        intro warnings params planned
        cases params.filesystem with
        | exFat => exact ⟨_, rfl⟩
        | _ => exact ⟨_, rfl⟩) 5 7
  have few : 0 < (report.bytesWritten + blockBytes - 1) / blockBytes := by
    unfold blockBytes
    omega
  obtain ⟨error, final, fails, -, -, same, -⟩ := torn 0 few
  refine ⟨report, reference, result, capacity, error, final, fails, ?_⟩
  rw [same, Nat.zero_mul, List.take_zero]
  rfl

end CardFormat
