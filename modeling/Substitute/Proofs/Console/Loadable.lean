import Substitute.Proofs.Console.Storing
import Substitute.Proofs.Document.Alike
import Substitute.Proofs.Settings.Unordered

/-!
# A configuration that loads keeps loading

The console writes a configuration file only when the settings in it are valid, and loading reads the same settings again as long as the text of a document reads back as the same data. So no lines, however many, turn a file that loads into one that does not.
-/

namespace Substitute

variable {p : Platform} {yaml : Yaml.Library} {sets : SetOrder}

namespace Settings

private theorem ofOverrides_empty (sets : SetOrder) : ofOverrides sets (.map []) = ofMerged defaults :=
  rfl

theorem exists_ofOverrides_empty (sets : SetOrder) :
    ∃ s, ofOverrides sets Document.empty.config = .ok s := by
  have hdefaults : ∃ s, ofMerged defaults = .ok s := ⟨_, rfl⟩
  rwa [← ofOverrides_empty sets] at hdefaults

theorem exists_ofFile_of_source {file : Option Text} {source : ConfigSource}
    (hsource : ConfigSource.ofFile yaml file = .ok source)
    (haccepted : ∃ s, ofOverrides sets source.document.config = .ok s) :
    ∃ s, ofFile yaml sets file = .ok s := by
  obtain ⟨s, hs⟩ := haccepted
  refine ⟨s, ?_⟩
  rw [ofFile, hsource]
  exact congrArg (·.mapError LoadError.settings) hs

private theorem exists_ofFile_none (yaml : Yaml.Library) (sets : SetOrder) :
    ∃ s, ofFile yaml sets none = .ok s :=
  exists_ofFile_of_source rfl (exists_ofOverrides_empty sets)

/-- A text that reads as the data of an accepted document loads. -/
theorem exists_ofFile_of_alike {t : Text} {d e : Document}
    (haccepted : ∃ s, ofOverrides sets d.config = .ok s)
    (hread : yaml.load (normalizeLineEnds t) = .ok e) (halike : d.Alike e) :
    ∃ s, ofFile yaml sets (some t) = .ok s := by
  have hsource : ConfigSource.ofFile yaml (some t) =
      .ok { document := if e.isMapping then e else .empty } := by
    rw [ConfigSource.ofFile, hread]
  refine exists_ofFile_of_source hsource ?_
  -- a document that is no mapping counts as empty
  split
  · exact exists_ofOverrides_of_unordered sets halike.config haccepted
  · exact exists_ofOverrides_empty sets

end Settings

namespace Console

def after (p : Platform) (c : Console) (lines : List SlashLine) : Console :=
  lines.foldl (fun c l => (c.handleSlash p l).1) c

/-- The documents that lines write to the configuration file one after the other, and their texts. -/
def writtenBy (p : Platform) (c : Console) : List SlashLine → List (Document × Text)
  | [] => []
  | l :: rest => (c.written? p l).toList ++ writtenBy p (c.handleSlash p l).1 rest

variable {c : Console} {l : SlashLine}

theorem accepted_of_written {d : Document} {text : Text}
    (hwritten : c.written? p l = some (d, text)) :
    ∃ s, Settings.ofOverrides p.sets d.config = .ok s := by
  obtain ⟨⟨key, value⟩, -, hstored⟩ := Option.bind_eq_some_iff.mp hwritten
  obtain ⟨hupdated, -⟩ := stored?_eq_some_iff.mp hstored
  obtain ⟨source, typed, -, -, haccepted, rfl⟩ := updatedDocument_eq_ok_iff.mp hupdated
  exact haccepted

private theorem exists_ofFile_handleSlash (hloads : ∃ s, Settings.ofFile p.yaml p.sets c.file = .ok s)
    (hreads : ∀ w, c.written? p l = some w →
      ∃ e, p.yaml.load (normalizeLineEnds w.2) = .ok e ∧ w.1.Alike e) :
    ∃ s, Settings.ofFile p.yaml p.sets (c.handleSlash p l).1.file = .ok s := by
  rw [file_handleSlash]
  cases hwritten : c.written? p l with
  | none => exact hloads
  | some w =>
    obtain ⟨e, hread, halike⟩ := hreads w hwritten
    exact Settings.exists_ofFile_of_alike (accepted_of_written hwritten) hread halike

/-- A configuration file that loads, or is missing, still loads after any lines, if what they write reads back. -/
theorem exists_ofFile_after (p : Platform) (c : Console) (lines : List SlashLine)
    (hloads : c.file = none ∨ ∃ s, Settings.ofFile p.yaml p.sets c.file = .ok s)
    (hreads : ∀ w ∈ c.writtenBy p lines,
      ∃ e, p.yaml.load (normalizeLineEnds w.2) = .ok e ∧ w.1.Alike e) :
    ∃ s, Settings.ofFile p.yaml p.sets (c.after p lines).file = .ok s := by
  have hstart : ∃ s, Settings.ofFile p.yaml p.sets c.file = .ok s := by
    obtain hnone | hloads := hloads
    · rw [hnone]
      exact Settings.exists_ofFile_none p.yaml p.sets
    · exact hloads
  clear hloads
  -- line by line: what one line writes is what the next one reads
  induction lines generalizing c with
  | nil => exact hstart
  | cons l rest ih =>
    obtain ⟨hfirst, hrest⟩ := List.forall_mem_append.mp hreads
    refine ih (c.handleSlash p l).1 hrest (exists_ofFile_handleSlash hstart fun w hw => ?_)
    exact hfirst w (Option.mem_toList.mpr hw)

/-- Lines that store a list, are refused, quit, and replace a section. -/
def settingLines : List SlashLine :=
  [{ command := "config", words := ["set", "separators", "[/, ;]"] },
    { command := "config", words := ["set", "dashboard", "off"] },
    { command := "quit", words := [] },
    dashboardOff]

theorem exists_ofFile_after_settingLines :
    (∃ s, Settings.ofFile Platform.usual.yaml Platform.usual.sets
        (withFile "log_level: debug\n").file = .ok s) ∧
      (∀ w ∈ (withFile "log_level: debug\n").writtenBy .usual settingLines,
        ∃ e, Platform.usual.yaml.load (normalizeLineEnds w.2) = .ok e ∧ w.1.Alike e) ∧
      ((withFile "log_level: debug\n").after .usual settingLines).file =
        some "log_level: debug\nseparators:\n- /\n- ;\ndashboard:\n  enable: false\n".toList ∧
      ∃ s, Settings.ofFile Platform.usual.yaml Platform.usual.sets
        ((withFile "log_level: debug\n").after .usual settingLines).file = .ok s := by
  have hload : ∃ s, Settings.ofFile Platform.usual.yaml Platform.usual.sets
      (withFile "log_level: debug\n").file = .ok s := by
    refine Option.isSome_iff_exists.mp ?_ |>.imp fun s => toOption_eq_some_iff.mp
    decide +kernel
  have hreads : ∀ w ∈ (withFile "log_level: debug\n").writtenBy .usual settingLines,
      ∃ e, Platform.usual.yaml.load (normalizeLineEnds w.2) = .ok e ∧ w.1.Alike e := by
    have halike : ∀ w ∈ (withFile "log_level: debug\n").writtenBy .usual settingLines,
        (Platform.usual.yaml.load (normalizeLineEnds w.2)).toOption.any w.1.isAlike = true := by
      decide +kernel
    intro w hw
    obtain ⟨e, he, hsame⟩ := (Option.any_eq_true _ _).mp (halike w hw)
    exact ⟨e, toOption_eq_some_iff.mp he, Document.alike_of_isAlike hsame⟩
  exact ⟨hload, hreads, by decide +kernel,
    exists_ofFile_after .usual _ settingLines (.inr hload) hreads⟩

end Console

end Substitute
