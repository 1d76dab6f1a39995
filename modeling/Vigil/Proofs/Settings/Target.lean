import Vigil.Proofs.Duration.Text
import Vigil.Proofs.Json.Text
import Vigil.Settings.Target

/-!
# Settings Read Back

Settings are written as an object ordered by key, as a record in the order of the settings, or as a
bare list in that order. Each of the three reads back as the same settings, the first two also from
their compact texts, since every reader of a single setting undoes its writer. The timeout is the one
whose writer is not plain: it is written as a sum of units (`Duration.ofText?_text`).

## Main results

* `UrlSettings.ofText?_record`, `TcpSettings.ofText?_record`: the text of the record reads as the object.
* `settings_round_trip`: settings read back from all their forms, and so do the settings that any value
  stands for, in whatever form it is given.
-/

namespace Vigil

namespace Reading

@[simp] theorem string_str (s : String) : string (.str s) = .ok s := rfl

@[simp] theorem flag_bool (b : Bool) : flag (.bool b) = .ok b := rfl

@[simp] theorem optional_string (s : Option String) : optional string (Json.optional s) = .ok s := by
  cases s <;> rfl

@[simp] theorem duration_text (d : Duration) : duration (.str d.text) = .ok d := by
  rw [duration, Duration.ofText?_text]

@[simp] theorem port_nat (p : Fin 65536) : port (Json.nat p) = .ok p := by
  have hrange : (0 : Int) ≤ (p : Nat) ∧ ((p : Nat) : Int) < 65536 := by omega
  rw [Json.nat, port, dif_pos hrange]
  rfl

/-- What is written so that it reads back can be written and read again. -/
theorem bind_written {α : Type} {read : Json → Reading α} {write : α → Json}
    (h : ∀ a, read (write a) = .ok a) (v : Json) : (read v >>= fun a => read (write a)) = read v := by
  cases read v with
  | error misfit => rfl
  | ok a => exact h a

end Reading

namespace Json

@[simp] theorem numbers_optional (s : Option String) : (optional s).numbers = [] := by
  cases s <;> rfl

@[simp] theorem depth_optional (s : Option String) : (optional s).depth = 0 := by
  cases s <;> rfl

end Json

namespace UrlSettings

/-- The values of the settings in their order. -/
def values (s : UrlSettings) : List Json :=
  [.str s.url, Json.optional s.username, Json.optional s.password, .bool s.verifyTls,
    .bool s.followRedirects, .str s.timeout.text, .bool s.blockPrivate]

/-- The settings as a record in their order. -/
def record (s : UrlSettings) : Json := .obj (names.zip s.values)

theorem ofJson_toJson (s : UrlSettings) : ofJson s.toJson = .ok s := by
  simp only [ofJson, toJson, ofFields, toFields, Reading.fields, readField, Reading.flag_bool,
    Reading.string_str, Reading.optional_string, Reading.duration_text]
  rfl

theorem ofJson_values (s : UrlSettings) : ofJson (.arr s.values) = .ok s := by
  simp only [ofJson, values, names, Reading.placed, List.zip_cons_cons, List.zip_nil_left,
    Reading.fields, readField, Reading.flag_bool, Reading.string_str, Reading.optional_string,
    Reading.duration_text]
  rfl

/-- The record ordered by key is the object. -/
theorem sorted_record (s : UrlSettings) : s.record.sorted = s.toJson := by
  obtain ⟨url, username, password, verifyTls, followRedirects, timeout, blockPrivate⟩ := s
  cases username <;> cases password <;> rfl

theorem sorted_toJson (s : UrlSettings) : s.toJson.sorted = s.toJson := by
  obtain ⟨url, username, password, verifyTls, followRedirects, timeout, blockPrivate⟩ := s
  cases username <;> cases password <;> rfl

/-- The text of the record reads as the object. -/
theorem ofText?_record (s : UrlSettings) : Json.ofText? s.record.text = some s.toJson := by
  have hnumbers : s.record.numbers = [] := by
    simp [record, names, values]
  have hdepth : s.record.depth = 1 := by simp [record, names, values]
  rw [Json.ofText?_text (hdepth ▸ by decide) (by simp [hnumbers]), sorted_record]

/-- The text of the object reads as the object. -/
theorem ofText?_toJson (s : UrlSettings) : Json.ofText? s.toJson.text = some s.toJson := by
  have hnumbers : s.toJson.numbers = [] := by
    simp [toJson, toFields]
  have hdepth : s.toJson.depth = 1 := by simp [toJson, toFields]
  rw [Json.ofText?_text (hdepth ▸ by decide) (by simp [hnumbers]), sorted_toJson]

end UrlSettings

namespace TcpSettings

/-- The values of the settings in their order. -/
def values (s : TcpSettings) : List Json :=
  [.str s.host, Json.nat s.port, .str s.timeout.text, .bool s.blockPrivate]

/-- The settings as a record in their order. -/
def record (s : TcpSettings) : Json := .obj (names.zip s.values)

theorem ofJson_toJson (s : TcpSettings) : ofJson s.toJson = .ok s := by
  simp only [ofJson, toJson, ofFields, toFields, Reading.fields, Draft.readField, Reading.flag_bool,
    Reading.string_str, Reading.port_nat, Reading.duration_text]
  rfl

theorem ofJson_values (s : TcpSettings) : ofJson (.arr s.values) = .ok s := by
  simp only [ofJson, values, names, Reading.placed, List.zip_cons_cons, List.zip_nil_left,
    Reading.fields, Draft.readField, Reading.flag_bool, Reading.string_str, Reading.port_nat,
    Reading.duration_text]
  rfl

/-- The record ordered by key is the object. -/
theorem sorted_record (s : TcpSettings) : s.record.sorted = s.toJson := rfl

theorem sorted_toJson (s : TcpSettings) : s.toJson.sorted = s.toJson := rfl

/-- A port number is legible. -/
theorem legible_port (p : Fin 65536) : (Number.int (p : Nat)).Legible :=
  Json.legible_int (by omega) (by omega)

/-- The text of the record reads as the object. -/
theorem ofText?_record (s : TcpSettings) : Json.ofText? s.record.text = some s.toJson := by
  have hnumbers : s.record.numbers = [.int (s.port : Nat)] := by
    simp [record, names, values, Json.nat]
  have hdepth : s.record.depth = 1 := rfl
  rw [Json.ofText?_text (hdepth ▸ by decide) (by simp [hnumbers, legible_port]), sorted_record]

/-- The text of the object reads as the object. -/
theorem ofText?_toJson (s : TcpSettings) : Json.ofText? s.toJson.text = some s.toJson := by
  have hnumbers : s.toJson.numbers = [.int (s.port : Nat)] := by
    simp [toJson, toFields, Json.nat]
  have hdepth : s.toJson.depth = 1 := rfl
  rw [Json.ofText?_text (hdepth ▸ by decide) (by simp [hnumbers, legible_port]), sorted_toJson]

end TcpSettings

/-- **Settings survive being written and read**, down to the nanosecond of the timeout: as an object,
as a list in the order of the settings, and as the text of the object or of the record. What a value
reads as, with settings left out, with fields of other names or as a list, stays the same when it is
written and read again. -/
theorem settings_round_trip :
    (∀ s : UrlSettings, UrlSettings.ofJson s.toJson = .ok s ∧ UrlSettings.ofJson (.arr s.values) = .ok s ∧
      (Json.ofText? s.toJson.text).map UrlSettings.ofJson = some (.ok s) ∧
      (Json.ofText? s.record.text).map UrlSettings.ofJson = some (.ok s)) ∧
    (∀ s : TcpSettings, TcpSettings.ofJson s.toJson = .ok s ∧ TcpSettings.ofJson (.arr s.values) = .ok s ∧
      (Json.ofText? s.toJson.text).map TcpSettings.ofJson = some (.ok s) ∧
      (Json.ofText? s.record.text).map TcpSettings.ofJson = some (.ok s)) ∧
    (∀ v, (UrlSettings.ofJson v >>= fun s => UrlSettings.ofJson s.toJson) = UrlSettings.ofJson v) ∧
    ∀ v, (TcpSettings.ofJson v >>= fun s => TcpSettings.ofJson s.toJson) = TcpSettings.ofJson v := by
  refine ⟨fun s => ⟨UrlSettings.ofJson_toJson s, UrlSettings.ofJson_values s, ?_, ?_⟩,
    fun s => ⟨TcpSettings.ofJson_toJson s, TcpSettings.ofJson_values s, ?_, ?_⟩,
    Reading.bind_written UrlSettings.ofJson_toJson, Reading.bind_written TcpSettings.ofJson_toJson⟩
  · rw [UrlSettings.ofText?_toJson, Option.map_some, UrlSettings.ofJson_toJson]
  · rw [UrlSettings.ofText?_record, Option.map_some, UrlSettings.ofJson_toJson]
  · rw [TcpSettings.ofText?_toJson, Option.map_some, TcpSettings.ofJson_toJson]
  · rw [TcpSettings.ofText?_record, Option.map_some, TcpSettings.ofJson_toJson]

/-- A field of another name does not count, and all the settings have defaults. -/
example : UrlSettings.ofJson (.obj [("colour", .str "red")]) = .ok {} := rfl

end Vigil
