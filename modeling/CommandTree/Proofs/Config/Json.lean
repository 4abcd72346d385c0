import CommandTree.Proofs.Json.Complete
import CommandTree.Proofs.Json.Members
import Mathlib

/-!
# Configurations in JSON objects

An object sets the fields of a configuration if each known key occurs at most once, with a
value of its kind (`Config.exists_isSetBy_iff`).  The configuration is then read from any text
that writes the object (`Config.fromJson_sets_fields`).
-/

namespace CommandTree

open Json (HoldsOnce Sets)

/-! ## Kinds of values -/

def Json.IsText (value : Json) (text : String) : Prop := value = .string (some text)

/-- A text, or nothing at all. -/
inductive Json.IsOptionalText : Json → Option String → Prop where
  | null : IsOptionalText .null none
  | text (text : String) : IsOptionalText (.string (some text)) (some text)

/-- A link is written as an object with one name and one address besides other members, or as
the two in a row. -/
inductive Link.IsWrittenIn : Json → Link → Prop where
  | object {members : List (String × Json)} {name url : String}
      (hname : HoldsOnce members "name" (.string (some name)))
      (hurl : HoldsOnce members "url" (.string (some url))) :
      IsWrittenIn (.ofMembers members) ⟨name, url⟩
  | pair (name url : String) :
      IsWrittenIn (.array [.string (some name), .string (some url)]) ⟨name, url⟩

/-- Links are written in an array, one after the other. -/
def Link.AreWrittenIn (value : Json) (links : List Link) : Prop :=
  ∃ elements, value = .array elements ∧ List.Forall₂ Link.IsWrittenIn elements links

namespace Json

variable {value : Json} {text : String}

theorem text?_eq_some_iff : value.text? = some text ↔ value.IsText text := by
  cases value <;> simp [text?, IsText]

theorem optionalText?_eq_some_iff {found : Option String} :
    value.optionalText? = some found ↔ value.IsOptionalText found := by
  constructor
  · intro h
    cases value with
    | null =>
        obtain rfl := Option.some.inj h
        exact .null
    | string value =>
        obtain ⟨text, rfl, rfl⟩ := Option.map_eq_some_iff.mp h
        exact .text text
    | _ => cases h
  · rintro (_ | text) <;> rfl

end Json

namespace Link

/-- A part of a link is read from the one member with its key. -/
theorem field?_eq_some_some_iff {members : List (String × Json)} {key text : String} :
    Json.field? (·.text?.map some) none (Json.under members key) = some (some text) ↔
      HoldsOnce members key (.string (some text)) := by
  have hread : ∀ (value : Json) (found : Option String), value.text?.map some = some found ↔
      ∃ text, value.IsText text ∧ some text = found := by
    intro value found
    simp only [Option.map_eq_some_iff, Json.text?_eq_some_iff]
  rw [Json.field?_eq_some_iff hread]
  constructor
  · rintro ⟨hvalue, _, rfl, hfound⟩
    obtain rfl := Option.some.inj hfound
    exact hvalue
  · exact fun hvalue => .given hvalue ⟨text, rfl, rfl⟩

theorem ofJson?_ofMembers (members : List (String × Json)) : ofJson? (.ofMembers members) =
    (do
      let name ← Json.field? (·.text?.map some) none (Json.under members "name")
      let url ← Json.field? (·.text?.map some) none (Json.under members "url")
      return { name := ← name, url := ← url }) := by
  have hmembers := Json.members?_eq_some_iff.mpr (Eq.refl (Json.ofMembers members))
  rw [Json.ofMembers] at hmembers ⊢
  rw [ofJson?, hmembers] <;> simp

theorem ofJson?_eq_some_iff {value : Json} {link : Link} :
    ofJson? value = some link ↔ link.IsWrittenIn value := by
  constructor
  · intro h
    cases value with
    | array elements =>
        match elements with
        | [] | [_] | _ :: _ :: _ :: _ => cases h
        | [name, url] =>
            obtain ⟨nameText, hname, urlText, hurl, rfl⟩ : ∃ nameText, name.text? = some nameText ∧
                ∃ urlText, url.text? = some urlText ∧ ⟨nameText, urlText⟩ = link := by
              simpa [ofJson?, Option.bind_eq_some_iff] using h
            obtain rfl := Json.text?_eq_some_iff.mp hname
            obtain rfl := Json.text?_eq_some_iff.mp hurl
            exact .pair nameText urlText
    | object found =>
        cases hmembers : (Json.object found).members? with
        | none => simp [ofJson?, hmembers] at h
        | some members =>
            rw [Json.members?_eq_some_iff.mp hmembers, ofJson?_ofMembers] at h
            simp only [Option.bind_eq_bind, Option.bind_eq_some_iff, Option.pure_def] at h
            obtain ⟨_, hname, _, hurl, name, rfl, url, rfl, h⟩ := h
            obtain rfl := Option.some.inj h
            rw [Json.members?_eq_some_iff.mp hmembers]
            exact .object (field?_eq_some_some_iff.mp hname) (field?_eq_some_some_iff.mp hurl)
    | _ => cases h
  · rintro (@⟨members, name, url, hname, hurl⟩ | ⟨name, url⟩)
    · rw [ofJson?_ofMembers, field?_eq_some_some_iff.mpr hname, field?_eq_some_some_iff.mpr hurl]
      rfl
    · rfl

theorem IsWrittenIn.holdsOnce {members : List (String × Json)} {link : Link}
    (h : link.IsWrittenIn (.ofMembers members)) :
    HoldsOnce members "name" (.string (some link.name)) ∧
      HoldsOnce members "url" (.string (some link.url)) := by
  generalize hvalue : Json.ofMembers members = value at h
  cases h with
  | object hname hurl =>
      obtain rfl := Json.ofMembers_injective hvalue
      exact ⟨hname, hurl⟩
  | pair name url => cases hvalue

theorem listOfJson?_eq_some_iff {value : Json} {links : List Link} :
    listOfJson? value = some links ↔ AreWrittenIn value links := by
  cases value with
  | array elements =>
      simp only [listOfJson?, mapM_eq_some_iff, ofJson?_eq_some_iff, AreWrittenIn,
        Json.array.injEq, exists_eq_left']
  | _ => simp [listOfJson?, AreWrittenIn]

end Link

namespace Config

variable {members others : List (String × Json)} {config : Config}

/-! ## Fields -/

/-- The members of an object set all fields of a configuration. -/
structure IsSetBy (members : List (String × Json)) (config : Config) : Prop where
  linePrefix : Sets Json.IsText default.linePrefix members "prefix" config.linePrefix
  prompt : Sets Json.IsText default.prompt members "prompt" config.prompt
  startup : Sets Json.IsOptionalText default.startup members "startup_command" config.startup
  errorLead : Sets Json.IsText default.errorLead members "error_prefix" config.errorLead
  warnLead : Sets Json.IsText default.warnLead members "warn_prefix" config.warnLead
  about : Sets Json.IsText default.about members "about" config.about
  links : Sets Link.AreWrittenIn default.links members "socials" config.links

/-- The value is of the kind that the field with the key has. -/
def Takes (key : String) (value : Json) : Prop :=
  if key = "startup_command" then ∃ text, value.IsOptionalText text
  else if key = "socials" then ∃ links, Link.AreWrittenIn value links
  else ∃ text, value.IsText text

/-- The key occurs at most once, with a value of its kind. -/
structure Fits (members : List (String × Json)) (key : String) : Prop where
  once : (members.map Prod.fst).count key ≤ 1
  takes : ∀ value, (key, value) ∈ members → Takes key value

/-- All known keys occur as they should.  Nothing is asked of others. -/
def IsWellFormed (members : List (String × Json)) : Prop := ∀ key ∈ keys, Fits members key

theorem ofFields?_eq_some_iff : ofFields? (Json.under members) = some config ↔
    IsSetBy members config := by
  simp only [ofFields?, Option.bind_eq_bind, Option.bind_eq_some_iff, Option.pure_def,
    Option.some.injEq, Json.field?_eq_some_iff fun _ _ => Json.text?_eq_some_iff,
    Json.field?_eq_some_iff fun _ _ => Json.optionalText?_eq_some_iff,
    Json.field?_eq_some_iff fun _ _ => Link.listOfJson?_eq_some_iff]
  constructor
  · rintro ⟨_, hlead, _, hprompt, _, hstartup, _, herror, _, hwarn, _, habout, _, hlinks, rfl⟩
    exact ⟨hlead, hprompt, hstartup, herror, hwarn, habout, hlinks⟩
  · rintro ⟨hlead, hprompt, hstartup, herror, hwarn, habout, hlinks⟩
    exact ⟨_, hlead, _, hprompt, _, hstartup, _, herror, _, hwarn, _, habout, _, hlinks, rfl⟩

theorem exists_sets_iff_fits {α : Type} {gives : Json → α → Prop} {fallback : α} {key : String}
    (htakes : ∀ value, Takes key value ↔ ∃ found, gives value found) :
    (∃ found, Sets gives fallback members key found) ↔ Fits members key := by
  rw [Json.exists_sets_iff]
  constructor
  · rintro ⟨honce, hgives⟩
    exact ⟨honce, fun value hvalue => (htakes value).mpr (hgives value hvalue)⟩
  · rintro ⟨honce, hfits⟩
    exact ⟨honce, fun value hvalue => (htakes value).mp (hfits value hvalue)⟩

/-- The members set a configuration exactly if they are well-formed. -/
theorem exists_isSetBy_iff : (∃ config, IsSetBy members config) ↔ IsWellFormed members := by
  simp only [IsWellFormed, keys, List.forall_mem_cons, List.not_mem_nil, false_implies,
    implies_true, and_true]
  have htext : ∀ key fallback : String,
      key ≠ "startup_command" → key ≠ "socials" →
      ((∃ found, Sets Json.IsText fallback members key found) ↔ Fits members key) := by
    intro key fallback hstartup hsocials
    exact exists_sets_iff_fits fun value => by rw [Takes, if_neg hstartup, if_neg hsocials]
  have hstartup : (∃ found, Sets Json.IsOptionalText default.startup members "startup_command"
      found) ↔ Fits members "startup_command" :=
    exists_sets_iff_fits fun value => by rw [Takes, if_pos rfl]
  have hlinks : (∃ found, Sets Link.AreWrittenIn default.links members "socials" found) ↔
      Fits members "socials" :=
    exists_sets_iff_fits fun value => by rw [Takes, if_neg (by decide), if_pos rfl]
  rw [← htext "prefix" default.linePrefix (by decide) (by decide),
    ← htext "prompt" default.prompt (by decide) (by decide), ← hstartup,
    ← htext "error_prefix" default.errorLead (by decide) (by decide),
    ← htext "warn_prefix" default.warnLead (by decide) (by decide),
    ← htext "about" default.about (by decide) (by decide), ← hlinks]
  constructor
  · rintro ⟨config, hset⟩
    exact ⟨⟨_, hset.linePrefix⟩, ⟨_, hset.prompt⟩, ⟨_, hset.startup⟩, ⟨_, hset.errorLead⟩,
      ⟨_, hset.warnLead⟩, ⟨_, hset.about⟩, ⟨_, hset.links⟩⟩
  · rintro ⟨⟨linePrefix, hlead⟩, ⟨prompt, hprompt⟩, ⟨startup, hstartup⟩, ⟨errorLead, herror⟩,
      ⟨warnLead, hwarn⟩, ⟨about, habout⟩, ⟨links, hlinks⟩⟩
    exact ⟨{ linePrefix, prompt, startup, errorLead, warnLead, about, links },
      hlead, hprompt, hstartup, herror, hwarn, habout, hlinks⟩

/-! ## Reading configurations -/

/-- What is read depends on what stands under the known keys, in any order. -/
theorem ofFields?_eq_of_perm
    (h : (others.filter fun member => member.1 ∈ keys).Perm
      (members.filter fun member => member.1 ∈ keys)) :
    ofFields? (Json.under others) = ofFields? (Json.under members) := by
  have hfield : ∀ {α : Type} (read : Json → Option α) (fallback : α), ∀ key ∈ keys,
      Json.field? read fallback (Json.under others key) =
        Json.field? read fallback (Json.under members key) := by
    intro α read fallback key hkey
    exact Json.field?_eq_of_perm (Json.under_perm hkey h)
  simp only [ofFields?, hfield _ _ "prefix" (by decide), hfield _ _ "prompt" (by decide),
    hfield _ _ "startup_command" (by decide), hfield _ _ "error_prefix" (by decide),
    hfield _ _ "warn_prefix" (by decide), hfield _ _ "about" (by decide),
    hfield _ _ "socials" (by decide)]

/-- In a text that writes an object, the fields are read from its members. -/
theorem bind_ofJson?_eq {text : String} (htext : Json.Writes text.toList (.ofMembers members)) :
    (Json.parse? text).bind ofJson? = ofFields? (Json.under members) := by
  have hmembers := Json.members?_eq_some_iff.mpr (Eq.refl (Json.ofMembers members))
  rw [Json.parse?_eq_some_iff.mpr htext, Option.bind_some]
  rw [Json.ofMembers] at hmembers ⊢
  rw [ofJson?, hmembers] <;> simp

theorem fromJson_of_isSetBy {text : String}
    (htext : Json.Writes text.toList (.ofMembers members)) (hset : IsSetBy members config) :
    fromJson text = config.validate := by
  rw [fromJson, bind_ofJson?_eq htext, ofFields?_eq_some_iff.mpr hset]

theorem fromJson_of_not_isWellFormed {text : String}
    (htext : Json.Writes text.toList (.ofMembers members)) (hill : ¬ IsWellFormed members) :
    fromJson text = .error .json := by
  have hnone : ofFields? (Json.under members) = none := by
    rw [Option.eq_none_iff_forall_ne_some]
    exact fun config hfields =>
      hill (exists_isSetBy_iff.mp ⟨config, ofFields?_eq_some_iff.mp hfields⟩)
  rw [fromJson, bind_ofJson?_eq htext, hnone]

/-- An object with known keys that occur at most once, and values of their kinds, is read as
the configuration that its members set, with defaults for the keys that are missing; what is
given back is what the check of the configuration gives.  Any other object is refused, in
particular one with a link whose name or address is missing, repeated or no text.  Neither
unknown members nor the order of the members make a difference. -/
theorem fromJson_sets_fields {text : String}
    (htext : Json.Writes text.toList (.ofMembers members)) :
    (IsWellFormed members → ∃ config, IsSetBy members config ∧
      (∀ other, IsSetBy members other → other = config) ∧ fromJson text = config.validate ∧
      (config.validate = .ok config ∨ ∃ fault : LinkFault,
        config.fault? = some fault ∧ config.validate = .error (.config fault.text))) ∧
    (¬ IsWellFormed members → fromJson text = .error .json) ∧
    (∀ elements fields key, ("socials", .array elements) ∈ members → .ofMembers fields ∈ elements →
      key ∈ ["name", "url"] → (∀ found : String, ¬ HoldsOnce fields key (.string (some found))) →
      fromJson text = .error .json) ∧
    ∀ (other : String) (others : List (String × Json)),
      Json.Writes other.toList (.ofMembers others) →
      (others.filter fun member => member.1 ∈ keys).Perm
        (members.filter fun member => member.1 ∈ keys) →
      fromJson other = fromJson text := by
  refine ⟨?_, fromJson_of_not_isWellFormed htext, ?_, ?_⟩
  · intro hformed
    obtain ⟨config, hset⟩ := exists_isSetBy_iff.mpr hformed
    refine ⟨config, hset, fun other hother => ?_, fromJson_of_isSetBy htext hset, ?_⟩
    · exact Option.some.inj
        ((ofFields?_eq_some_iff.mpr hother).symm.trans (ofFields?_eq_some_iff.mpr hset))
    · rw [validate]
      cases config.fault? with
      | none => exact .inl rfl
      | some fault => exact .inr ⟨fault, rfl, rfl⟩
  · intro elements fields key hsocials hlink hkey hlacks
    refine fromJson_of_not_isWellFormed htext fun hformed => ?_
    have htakes := (hformed "socials" (by decide)).takes _ hsocials
    rw [Takes, if_neg (by decide), if_pos rfl] at htakes
    obtain ⟨links, _, harray, hlinks⟩ := htakes
    obtain rfl := Json.array.inj harray
    obtain ⟨i, hi, hwritten⟩ := List.getElem_of_mem hlink
    have hfound := hlinks.get hi (hlinks.length_eq ▸ hi)
    rw [List.get_eq_getElem, hwritten] at hfound
    rcases List.mem_pair.mp hkey with rfl | rfl
    · exact hlacks _ hfound.holdsOnce.1
    · exact hlacks _ hfound.holdsOnce.2
  · intro other others hother hperm
    rw [fromJson, fromJson, bind_ofJson?_eq hother, bind_ofJson?_eq htext,
      ofFields?_eq_of_perm hperm]

/-- An object with an unknown member and an escape in a key. -/
def pageText : String :=
  "\x7b \"tags\": [-1.5e+3], \"startup_command\": null,\n\"pre\\u0066ix\": \"!\", "
    ++ "\"socials\": [\x7b\"url\": \"u\", \"name\": \"home\"\x7d]\x7d"

def page : List (String × Json) :=
  [("tags", .array [.scalar]), ("startup_command", .null), ("prefix", .string (some "!")),
    ("socials",
      .array [.ofMembers [("url", .string (some "u")), ("name", .string (some "home"))]])]

/-- The known members of the page in the opposite order. -/
def shortText : String :=
  "\x7b\"socials\":[\x7b\"url\":\"u\",\"name\":\"home\"\x7d],"
    ++ "\"prefix\":\"!\",\"startup_command\":null\x7d"

set_option maxRecDepth 20000 in
theorem writes_page : Json.Writes pageText.toList (.ofMembers page) ∧
    Json.Writes shortText.toList (.ofMembers page.tail.reverse) :=
  ⟨Json.parse?_eq_some_iff.mp (by cbv), Json.parse?_eq_some_iff.mp (by cbv)⟩

/-- The page is read with its unknown member and without it, and a prefix of nothing is
refused. -/
theorem fromJson_sets_fields_of_page :
    let config : Config := { linePrefix := "!", startup := none, links := [⟨"home", "u"⟩] }
    let refused := "\x7b\"prefix\":null\x7d"
    Json.Writes pageText.toList (.ofMembers page) ∧ IsWellFormed page ∧
      fromJson pageText = .ok config ∧ fromJson shortText = .ok config ∧
      Json.Writes refused.toList (.ofMembers [("prefix", .null)]) ∧
      fromJson refused = .error .json := by
  intro config refused
  obtain ⟨hpage, hshort⟩ := writes_page
  have hset : IsSetBy page config := ofFields?_eq_some_iff.mp rfl
  have hformed : IsWellFormed page := exists_isSetBy_iff.mp ⟨config, hset⟩
  obtain ⟨hread, -, -, horder⟩ := fromJson_sets_fields hpage
  obtain ⟨found, -, hunique, hresult, -⟩ := hread hformed
  obtain rfl := hunique config hset
  have hok : fromJson pageText = .ok config := hresult.trans rfl
  have hperm : (page.tail.reverse.filter fun member => member.1 ∈ keys).Perm
      (page.filter fun member => member.1 ∈ keys) :=
    (List.reverse_perm page.tail).filter _
  have hrefused : Json.Writes refused.toList (.ofMembers [("prefix", .null)]) :=
    Json.parse?_eq_some_iff.mp (by cbv)
  have hill : ¬ IsWellFormed [("prefix", .null)] := by
    intro h
    simpa [Takes, Json.IsText] using (h "prefix" (by decide)).takes .null (by simp)
  exact ⟨hpage, hformed, hok, (horder shortText _ hshort hperm).trans hok, hrefused,
    (fromJson_sets_fields hrefused).2.1 hill⟩

end Config

end CommandTree
