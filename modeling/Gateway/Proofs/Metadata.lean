import Gateway.Configuration.Metadata
import Gateway.Proofs.Decimal.Reading

namespace Gateway

/-! What the metadata of a cluster set. -/

namespace Metadata

theorem read32?_eq_some {text : String} {value : Nat} :
    read32? text = some value ↔ Decimal.Numeral text.toList value ∧ value < 2 ^ 32 :=
  Decimal.naturalBelow?_eq_some

theorem read64?_eq_some {text : String} {value : Nat} :
    read64? text = some value ↔ Decimal.Numeral text.toList value ∧ value < 2 ^ 64 :=
  Decimal.naturalBelow?_eq_some

theorem readBits?_eq_some {text : String} {bits : UInt64} :
    readBits? text = some bits ↔ Decimal.Spelling text.toList bits :=
  Decimal.bits?_eq_some

end Metadata

namespace ClusterConfig

variable {α : Type} {config : ClusterConfig} {key : String} {read : String → Option α}
  {default value : α}

/-- A typed value of the metadata, or its default where it is absent or malformed. -/
def metadataOr (config : ClusterConfig) (key : String) (read : String → Option α)
    (default : α) : α :=
  ((config.metadata.get? key).bind read).getD default

theorem value_metadataValue (config : ClusterConfig) (key : String)
    (read : String → Option α) (default : α) :
    (config.metadataValue key read default).value =
      config.metadataOr key read default := by
  unfold metadataValue metadataOr
  split
  · rename_i absent
    rw [absent]
    rfl
  · rename_i text found
    rw [found, Option.bind_some]
    split
    · rename_i value readable
      rw [readable]
      rfl
    · rename_i malformed
      rw [malformed]
      rfl

/-- What a key of the metadata sets, told by the texts that spell a value. -/
inductive Setting (config : ClusterConfig) (key : String) (Spells : String → α → Prop)
    (default : α) : α → Prop
  | given {text : String} {value : α} (found : config.metadata.get? key = some text)
      (spelled : Spells text value) : Setting config key Spells default value
  | absent (missing : config.metadata.get? key = none) :
      Setting config key Spells default default
  | malformed {text : String} (found : config.metadata.get? key = some text)
      (unread : ∀ value, ¬ Spells text value) : Setting config key Spells default default

theorem setting_iff {Spells : String → α → Prop}
    (reads : ∀ {text value}, read text = some value ↔ Spells text value) :
    config.Setting key Spells default value ↔
      config.metadataOr key read default = value := by
  unfold metadataOr
  constructor
  · intro setting
    cases setting with
    | given found spelled =>
        rw [found, Option.bind_some, reads.2 spelled, Option.getD_some]
    | absent missing => rw [missing, Option.bind_none, Option.getD_none]
    | malformed found unread =>
        have malformed := Option.eq_none_iff_forall_ne_some.2 fun value read =>
          unread value (reads.1 read)
        rw [found, Option.bind_some, malformed, Option.getD_none]
  · rintro rfl
    cases found : config.metadata.get? key with
    | none => exact .absent found
    | some text =>
        rw [Option.bind_some]
        cases readable : read text with
        | none =>
            refine .malformed found fun value spelled => ?_
            rw [reads.2 spelled] at readable
            cases readable
        | some value => exact .given found (reads.1 readable)

end ClusterConfig

end Gateway
