import Vigil.Proofs.Check.Url
import Vigil.Proofs.Redaction
import Vigil.Proofs.Url.Canonical

/-!
# Descriptions of Checks

A check tells its settings in the events of every run. The secrets among them stand in two places: a
user name and a password of their own, under keys that redaction knows, and the password inside of
the URL, under a key that it does not know. Of the URL a check therefore does not show what it was
given but what it made of it, with a mask for the password. What redaction leaves of a description is
then a function of all the rest, and the URL in it is still one that can be read.

## Main definitions

* `Url.Alike`, `UrlSettings.Alike`: what may be told apart by secrets alone.

## Main results

* `UrlCheck.describe_eq`: the description of a check, field by field.
* `UrlCheck.description_safe`: what redaction leaves of it.
-/

namespace Vigil

/-- URLs that agree in everything but the text of a password, which both of them have or neither. -/
structure Url.Alike (u u' : Url) : Prop where
  password : u'.password.isSome = u.password.isSome
  rest : u' = { u with password := u'.password }

/-- Settings that agree in everything but the text of the URL, the user name and the password. -/
structure UrlSettings.Alike (s s' : UrlSettings) : Prop where
  rest : s' = { s with url := s'.url, username := s'.username, password := s'.password }

/-- Under a mask such URLs are one. -/
theorem Url.Alike.maskPassword_eq {u u' : Url} (h : u.Alike u') (mask : String) :
    u.maskPassword mask = u'.maskPassword mask := by
  have hpassword := h.password
  rw [h.rest, maskPassword, maskPassword]
  dsimp only
  cases hu : u.password <;> cases hu' : u'.password <;> simp_all

/-- A URL in canonical form stays in it under a mask that may stand for a password. -/
theorem Url.Canonical.maskPassword {u : Url} (h : u.Canonical) {mask : String} (hne : mask ≠ "")
    (hmask : ∀ c ∈ mask.toList, userinfoSet c = false) : (u.maskPassword mask).Canonical := by
  have hmasked {p : String} (hp : (u.maskPassword mask).password = some p) : p = mask := by
    obtain ⟨-, -, rfl⟩ := Option.map_eq_some_iff.mp hp
    rfl
  exact ⟨⟨h.username, fun p hp => hmasked hp ▸ hmask, h.host, h.port⟩, h.reads,
    fun hp => hne (hmasked hp).symm, h.port_ne, h.path_ne, h.path, h.query, h.fragment⟩

namespace UrlCheck

/-- **A check describes itself** by its settings in the order of their keys, with the URL in its
normal form and under a mask. -/
theorem describe_eq (c : UrlCheck) :
    c.describe =
      [("block_private_hosts", .bool c.settings.blockPrivate),
        ("follow_redirects", .bool c.settings.followRedirects),
        ("name", .str c.name),
        ("password", Json.optional c.settings.password),
        ("timeout", .str c.settings.timeout.text),
        ("url", .str (c.url.maskPassword Redaction.placeholder).text),
        ("username", Json.optional c.settings.username),
        ("verify_ssl", .bool c.settings.verifyTls)] := by
  rfl

/-- Of checks that differ in secrets alone, redaction leaves one description. -/
theorem redactFields_describe_eq {c c' : UrlCheck} (hname : c.name = c'.name)
    (hsettings : c.settings.Alike c'.settings) (hurl : c.url.Alike c'.url) :
    Redaction.redactFields c.describe = Redaction.redactFields c'.describe := by
  rw [describe_eq, describe_eq, hname, hurl.maskPassword_eq, hsettings.rest]
  exact Redaction.AlikeFields.redactFields_eq <| .plain (.same _) <| .plain (.same _) <|
    .plain (.same _) <| .secret (by decide) <| .plain (.same _) <| .plain (.same _) <|
    .secret (by decide) <| .plain (.same _) .nil

/-- Redaction leaves the URL in a description alone. -/
theorem field?_url_describe (c : UrlCheck) :
    Json.field? "url" (Redaction.redactFields c.describe) =
      some (.str (c.url.maskPassword Redaction.placeholder).text) := by
  have hkey : Redaction.isSecret "url" = false := by decide
  have hfield : Json.field? "url" c.describe =
      some (.str (c.url.maskPassword Redaction.placeholder).text) := by
    rw [describe_eq]
    rfl
  rw [Redaction.field?_redactFields, hfield, hkey]
  rfl

/-- The URL in a description is read as that of the check under the mask. -/
theorem ofText_maskPassword {name : String} {settings : UrlSettings} {c : UrlCheck}
    (h : build name settings = .ok c) :
    Url.ofText (c.url.maskPassword Redaction.placeholder).text =
      .ok (c.url.maskPassword Redaction.placeholder) := by
  obtain ⟨-, hread⟩ := build_spec h
  exact ((Url.ofText_canonical hread).maskPassword (by decide)
    (Text.forall_mem_of_all (by decide))).ofText_text

/-- **A check can be told of without its secrets.** Two checks that are built under one name, whose
URLs agree in everything but the text of a password and whose settings agree in everything but the
text of the URL, the user name and the password, have the same description once it is redacted. The
URL in it reads as the URL of the check with nothing but its password replaced, if it has one. -/
theorem description_safe {name : String} {settings : UrlSettings} {c : UrlCheck}
    (h : build name settings = .ok c) :
    (∀ settings' c', build name settings' = .ok c' → settings.Alike settings' → c.url.Alike c'.url →
      Redaction.redactFields c.describe = Redaction.redactFields c'.describe) ∧
      ∃ text, Json.field? "url" (Redaction.redactFields c.describe) = some (.str text) ∧
        Url.ofText text =
          .ok { c.url with password := c.url.password.map fun _ => Redaction.placeholder } ∧
        (c.url.password = none → Url.ofText text = .ok c.url) := by
  have hread := ofText_maskPassword h
  refine ⟨fun settings' c' h' hsettings hurl => ?_, _, field?_url_describe c, hread,
    fun hnone => ?_⟩
  · obtain ⟨-, url, -, rfl⟩ := build_eq_ok_iff.mp h
    obtain ⟨-, url', -, rfl⟩ := build_eq_ok_iff.mp h'
    exact redactFields_describe_eq rfl hsettings hurl
  · rw [hread, Url.maskPassword, hnone, Option.map_none, ← hnone]

/-- The URL of a check whose password is rotated. -/
def rotated (password : String) : Url :=
  ⟨.http, "bob", some password, edgeHost, some 8080, ["health"], some "q=1", none⟩

/-- Settings with the password in the URL alone. -/
def beforeRotation : UrlSettings where
  url := "http://bob:s3cr%33t@[2606:4700::1111]:8080/a/../health?q=1"

/-- Settings with another password in the URL, spelled differently, and with a user of their own. -/
def afterRotation : UrlSettings where
  url := " HTTP:/bob:0ther@[2606:4700:0:0::1111]:08080/health?q=1 "
  username := some "me"
  password := some "hush"

/-- Neither password shows, nor which of the two it was. -/
theorem description_safe_rotated :
    build "api" beforeRotation = .ok ⟨"api", beforeRotation, rotated "s3cr%33t"⟩ ∧
      build "api" afterRotation = .ok ⟨"api", afterRotation, rotated "0ther"⟩ ∧
      Redaction.redactFields (describe ⟨"api", beforeRotation, rotated "s3cr%33t"⟩) =
        Redaction.redactFields (describe ⟨"api", afterRotation, rotated "0ther"⟩) ∧
      Json.field? "url" (Redaction.redactFields (describe ⟨"api", afterRotation, rotated "0ther"⟩)) =
        some (.str "http://bob:***@[2606:4700::1111]:8080/health?q=1") ∧
      Url.ofText "http://bob:***@[2606:4700::1111]:8080/health?q=1" = .ok (rotated "***") := by
  have hbefore : build "api" beforeRotation = .ok ⟨"api", beforeRotation, rotated "s3cr%33t"⟩ := by
    rfl
  have hafter : build "api" afterRotation = .ok ⟨"api", afterRotation, rotated "0ther"⟩ := by
    rfl
  obtain ⟨hsame, text, hfield, hread, -⟩ := description_safe hbefore
  have htext : Json.field? "url" (Redaction.redactFields
      (describe ⟨"api", beforeRotation, rotated "s3cr%33t"⟩)) =
        some (.str "http://bob:***@[2606:4700::1111]:8080/health?q=1") := by
    rfl
  have hdescription := hsame _ _ hafter ⟨rfl⟩ ⟨rfl, rfl⟩
  obtain rfl : text = "http://bob:***@[2606:4700::1111]:8080/health?q=1" :=
    Json.str.inj (Option.some.inj (hfield.symm.trans htext))
  exact ⟨hbefore, hafter, hdescription, hdescription ▸ htext, hread⟩

end UrlCheck

end Vigil
