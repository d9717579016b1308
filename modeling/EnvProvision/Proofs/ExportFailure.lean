import EnvProvision.Proofs.ExportScript

namespace EnvProvision.CommandLine

theorem output_of_not_act {world : World} {arguments : List String}
    (h : ∀ options action, read arguments ≠ some (.act options action))
    (hcode : (answer world arguments).code ≠ 0) : (answer world arguments).output = [] := by
  unfold answer at hcode ⊢
  split
  case h_1 => rfl
  case h_2 hr | h_3 hr => simp [hr, Result.showing] at hcode
  case h_4 options action hr => exact absurd hr (h options action)

theorem read_export_exportValues (options : Options) (action : Action)
    (h : read ["export"] = some (.act options action)) : action = .exportValues := by
  have hread : read ["export"] = some (.act {} .exportValues) := by decide +kernel
  rw [hread] at h
  cases h
  rfl

end EnvProvision.CommandLine
