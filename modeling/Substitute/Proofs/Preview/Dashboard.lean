import Substitute.Preview.Composer
import Substitute.Proofs.Preview.Landing

/-!
# What the dashboard shows

A redraw makes the panel the panel of the text: always when it is forced, and otherwise as long as the panel was drawn from the text that is remembered, which is so whatever the dashboard has been told. What the scheduler asks for never hides or shows the dashboard.
-/

namespace Substitute

/-- The panel that belongs to a text, if it is a command. -/
def Settings.preview? (s : Settings) (t : Text) : Option (List PanelLine) :=
  (Command.parse? t).map (panelLines s)

@[simp] theorem Panel.lines_close (p : Panel) : p.close.lines = none := by
  rw [close]
  split
  · rfl
  · rename_i hdown
    simpa [isShown] using hdown

@[simp] theorem Panel.isShown_close (p : Panel) : p.close.isShown = false := by
  rw [isShown, p.lines_close]
  rfl

namespace Dashboard

variable (s : Settings) (d : Dashboard)

/-- A redraw makes the panel the panel of the text, unless it is left alone because it is that already. -/
theorem lines_refresh {t : Text}
    (hdrawn : d.drawn = some t → d.panel.isShown = true → d.panel.lines = s.preview? t) :
    (d.refresh s t).panel.lines = if d.isEnabled s then s.preview? t else d.panel.lines := by
  rw [refresh]
  rw [Settings.preview?] at hdrawn ⊢
  cases d.isEnabled s with
  | false => rfl
  | true =>
    cases hparse : Command.parse? t with
    | none =>
      by_cases hshown : d.panel.isShown = true
      · have hclosed : d.close.panel.lines = none := d.panel.lines_close
        simpa [hshown] using hclosed
      · have hdown : d.panel.lines = none := by simpa [Panel.isShown] using hshown
        simp [hshown, hdown]
    | some command =>
      by_cases hsame : d.drawn = some t ∧ d.panel.isShown = true
      · have hlines := hdrawn hsame.1 hsame.2
        rw [hparse] at hlines
        simpa [hsame] using hlines
      · have hanew : (decide (d.drawn = some t) && d.panel.isShown) = false := by simpa using hsame
        simp [hanew, Panel.draw]

theorem lines_refresh_invalidate (t : Text) :
    (d.invalidate.refresh s t).panel.lines =
      if d.isEnabled s then s.preview? t else d.panel.lines :=
  lines_refresh s d.invalidate fun hdrawn => nomatch hdrawn

@[simp] theorem hidden_refresh (t : Text) : (d.refresh s t).hidden = d.hidden := by
  rw [refresh]
  repeat' split
  all_goals rfl

theorem absorb_landing (scheduler : Scheduler) (t : Text) :
    (scheduler.landing t).foldl (absorb s) d = d.invalidate.refresh s t := by
  rw [Scheduler.landing]
  cases scheduler.pending <;> rfl

/-! ### The panel and the text it was drawn from -/

/-- What a dashboard remembers is true: its panel is up only while it is enabled, and was drawn from the text that was drawn last. -/
structure Coherent : Prop where
  enabled : d.panel.isShown = true → d.isEnabled s = true
  drawn : ∀ t, d.drawn = some t → d.panel.isShown = true → d.panel.lines = s.preview? t

variable {s d}

theorem Coherent.of_down (down : d.panel.isShown = false) : d.Coherent s where
  enabled hshown := absurd hshown (by simp [down])
  drawn _ _ hshown := absurd hshown (by simp [down])

theorem Coherent.invalidate (hd : d.Coherent s) : d.invalidate.Coherent s where
  enabled := hd.enabled
  drawn _ hdrawn := nomatch hdrawn

theorem isShown_close (d : Dashboard) : d.close.panel.isShown = false :=
  d.panel.isShown_close

/-- Showing a dashboard again leaves its panel down until the next redraw. -/
theorem Coherent.toggle (hd : d.Coherent s) : d.toggle.1.panel.isShown = false := by
  rw [Dashboard.toggle]
  split
  · rename_i hhidden
    refine eq_false_of_ne_true fun hshown => ?_
    have henabled := hd.enabled hshown
    simp [isEnabled, hhidden] at henabled
  · exact isShown_close _

theorem Coherent.entered (hd : d.Coherent s) : d.entered.Coherent s where
  enabled hshown := by
    have henabled := hd.enabled hshown
    rw [isEnabled, Bool.and_eq_true] at henabled
    exact Bool.and_eq_true_iff.mpr ⟨henabled.1, rfl⟩
  drawn _ hdrawn := nomatch hdrawn

theorem Coherent.lines_refresh (hd : d.Coherent s) (t : Text) :
    (d.refresh s t).panel.lines = if d.isEnabled s then s.preview? t else none := by
  rw [Dashboard.lines_refresh s d (hd.drawn t)]
  cases henabled : d.isEnabled s with
  | true => rfl
  | false =>
    have hdown : ¬ d.panel.isShown = true := fun hshown => by simp [hd.enabled hshown] at henabled
    simpa [Panel.isShown] using hdown

theorem Coherent.isShown_refresh (hd : d.Coherent s) (t : Text) :
    (d.refresh s t).panel.isShown = (d.isEnabled s && (Command.parse? t).isSome) := by
  rw [Panel.isShown, hd.lines_refresh t, Settings.preview?]
  cases d.isEnabled s <;> simp

theorem Coherent.lines_of_isShown_refresh (hd : d.Coherent s) {t : Text}
    (hshown : (d.refresh s t).panel.isShown = true) :
    (d.refresh s t).panel.lines = s.preview? t := by
  rw [hd.isShown_refresh t, Bool.and_eq_true] at hshown
  rw [hd.lines_refresh t, if_pos hshown.1]

@[simp] theorem isEnabled_refresh (t : Text) : (d.refresh s t).isEnabled s = d.isEnabled s := by
  rw [isEnabled, isEnabled, hidden_refresh]

private theorem refresh_cases (t : Text) :
    d.refresh s t = d ∨ d.refresh s t = d.close ∨ (d.refresh s t).drawn = some t := by
  rw [refresh]
  repeat' split
  · exact .inl rfl
  · exact .inr (.inl rfl)
  · exact .inl rfl
  · exact .inl rfl
  · exact .inr (.inr rfl)

theorem Coherent.refresh (hd : d.Coherent s) (t : Text) : (d.refresh s t).Coherent s := by
  rcases refresh_cases (s := s) (d := d) t with hsame | hclosed | hdrawn
  · rw [hsame]
    exact hd
  · rw [hclosed]
    exact .of_down (isShown_close d)
  · refine ⟨fun hshown => ?_, fun u hu hshown => ?_⟩
    · rw [hd.isShown_refresh t, Bool.and_eq_true] at hshown
      rw [isEnabled_refresh]
      exact hshown.1
    · obtain rfl : t = u := Option.some.inj (hdrawn.symm.trans hu)
      exact hd.lines_of_isShown_refresh hshown

end Dashboard

end Substitute
