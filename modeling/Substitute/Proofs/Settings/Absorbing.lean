import Substitute.Proofs.Settings.Reloading
import Substitute.Proofs.Settings.Unordered
import Substitute.Proofs.Value.Copying
import Substitute.Value.Slots

/-!
# The defaults written out

Merging is absorbing on both sides, up to the order in which sets have their members. So a configuration means what it means with all defaults written out in it, but that writing them out copies it: a set may come out in another order, which shows in the text of the default flags and in complaints.
-/

namespace Substitute

namespace Settings

variable (sets : SetOrder) {entries : Entries}

theorem keyed_defaults : (Value.map defaults).Keyed fun key => ∃ name, key = .text name := by
  decide

theorem isFixed_defaults : (Value.map defaults).IsFixed sets :=
  ⟨rfl, keyed_defaults⟩

theorem ofOverrides_eq_ofConfig (hentries : (Value.map entries).WellFormed) :
    ofOverrides sets (.map entries) = ofConfig (.map (copiedEntries sets entries)) := by
  rw [ofOverrides_map, ofConfig_map, Value.deepMerge_eq_merge (isFixed_defaults sets) hentries]

/-- Laying the defaults and a configuration over the defaults is laying a copy of the configuration over them. -/
theorem deepMerge_defaults_again (hentries : (Value.map entries).WellFormed) :
    Entries.deepMerge sets defaults (Entries.deepMerge sets defaults entries) =
      Entries.deepMerge sets defaults (copiedEntries sets entries) := by
  have hfixed := isFixed_defaults sets
  have hcopy : (Value.map (copiedEntries sets entries)).WellFormed := hentries.copied sets
  have hagain := Value.comparable_named.over_lower_again keyed_defaults (hcopy.copied sets).keyed
  have hmerged : (Value.map (Entries.deepMerge sets defaults entries)).WellFormed := by
    have hbelow : ∀ below ∈ some (Value.map defaults), below.WellFormed := by
      simpa using keyed_defaults.wellFormed
    rw [Value.deepMerge_eq_merge hfixed hentries]
    exact hcopy.over hbelow
  calc Entries.deepMerge sets defaults (Entries.deepMerge sets defaults entries)
      = Entries.merge defaults (copiedEntries sets (Entries.deepMerge sets defaults entries)) :=
        Value.deepMerge_eq_merge hfixed hmerged
    _ = Entries.merge defaults (Entries.merge defaults
          (copiedEntries sets (copiedEntries sets entries))) := by
        rw [Value.deepMerge_eq_merge hfixed hentries, Value.copiedEntries_merge, hfixed.of_map.1]
    _ = Entries.merge defaults (copiedEntries sets (copiedEntries sets entries)) := Value.map.inj hagain
    _ = Entries.deepMerge sets defaults (copiedEntries sets entries) :=
        (Value.deepMerge_eq_merge hfixed hcopy).symm

/-- Merging is absorbing on both sides, up to the order in sets. So a configuration means what its copy means with all defaults written out in it, whatever its keys are: both are accepted as the same settings, or refused with the same complaints. A copy is accepted as the same settings but for the text of the default flags, and wholly the same where sets keep their order in it. -/
theorem merge_absorbing :
    (∀ base entries : Entries, (Value.map base).Keyed Value.IsKey →
        (Value.map entries).Keyed Value.IsKey →
        (Value.map (Entries.deepMerge sets base (Entries.deepMerge sets base entries))).unordered =
            (Value.map (Entries.deepMerge sets base entries)).unordered ∧
          (Value.map (Entries.deepMerge sets (Entries.deepMerge sets base entries) entries)).unordered =
            (Value.map (Entries.deepMerge sets base entries)).unordered) ∧
      ∀ entries : Entries, (Value.map entries).WellFormed →
        ofOverrides sets (.map (Entries.deepMerge sets defaults entries)) =
            ofOverrides sets (.map (copiedEntries sets entries)) ∧
          (∀ s, ofOverrides sets (.map entries) = .ok s →
            ∃ shown, ofOverrides sets (.map (Entries.deepMerge sets defaults entries)) =
              .ok { s with defaultFlags := shown }) ∧
          (∀ s, ofOverrides sets (.map (Entries.deepMerge sets defaults entries)) = .ok s →
            ∃ shown, ofOverrides sets (.map entries) = .ok { s with defaultFlags := shown }) ∧
          (copiedEntries sets (copiedEntries sets entries) = copiedEntries sets entries →
            ofOverrides sets (.map (Entries.deepMerge sets defaults entries)) =
              ofOverrides sets (.map entries)) := by
  refine ⟨fun base entries hbase hentries => ⟨?_, ?_⟩, fun entries hentries => ?_⟩
  · exact Value.comparable_isKey.deepMerge_lower_again sets hbase hentries
  · exact Value.comparable_isKey.deepMerge_upper_again sets hbase hentries
  have hwritten : ofOverrides sets (.map (Entries.deepMerge sets defaults entries)) =
      ofOverrides sets (.map (copiedEntries sets entries)) := by
    rw [ofOverrides_map, ofOverrides_map, deepMerge_defaults_again sets hentries]
  have hsame := Value.unorderedEntries_copied sets entries
  rw [hwritten]
  refine ⟨rfl, fun s hs => ofOverrides_of_unordered sets hsame.symm hs,
    fun s hs => ofOverrides_of_unordered sets hsame hs, fun hstable => ?_⟩
  rw [ofOverrides_eq_ofConfig sets hentries, ofOverrides_eq_ofConfig sets (hentries.copied sets),
    hstable]

theorem merge_absorbing_cut_section :
    let base : Entries :=
      [(.int 1, .map [(.text "a", .int 1), (.text "b", .int 2)]), (.text "c", .map [(.int 0, .null)])]
    let entries : Entries :=
      [(.text "c", .text "off"), (.bool true, .map [(.text "b", .null), (.text "d", .list [])])]
    let merged : Entries :=
      [(.int 1, .map [(.text "a", .int 1), (.text "b", .null), (.text "d", .list [])]),
        (.text "c", .text "off")]
    let config : Entries := [(.text "keymaps", .text "off"), (.float .nan, .int 1)]
    (Value.map (Entries.deepMerge .bySlots base merged)).unordered = (Value.map merged).unordered ∧
      (Value.map (Entries.deepMerge .bySlots merged entries)).unordered = (Value.map merged).unordered ∧
      ofOverrides .bySlots (.map (Entries.deepMerge .bySlots defaults config)) =
        .error (.invalid ["keymaps must be a mapping"]) := by
  intro base entries merged config
  have hmerged : Entries.deepMerge .bySlots base entries = merged := rfl
  obtain ⟨habsorbing, hdefaults⟩ := merge_absorbing .bySlots
  obtain ⟨hlower, hupper⟩ := habsorbing base entries (by decide) (by decide)
  rw [hmerged] at hlower hupper
  refine ⟨hlower, hupper, ?_⟩
  have hconfig : (Value.map config).WellFormed :=
    .map (by decide) (List.forall_mem_cons.mpr ⟨.leaf nofun, by simpa using .leaf nofun⟩)
  obtain ⟨-, -, -, hsame⟩ := hdefaults config hconfig
  rw [hsame rfl]
  rfl

/-- A set of default flags comes out in another order with the defaults written out. -/
theorem merge_not_absorbing :
    ∃ s t, ofOverrides .bySlots (.map [(.text "default_flags", .set [.int 15, .int 7])]) = .ok s ∧
      ofOverrides .bySlots (.map (Entries.deepMerge .bySlots defaults
        [(.text "default_flags", .set [.int 15, .int 7])])) = .ok t ∧
      s.defaultFlags = "\x7b7, 15\x7d".toList ∧ t.defaultFlags = "\x7b15, 7\x7d".toList := by
  exact ⟨_, _, rfl, rfl, by decide, by decide⟩

end Settings

end Substitute
