import DigitalSolutions.Foundation.Checks
import DigitalSolutions.Foundation.UrlReferences

namespace DigitalSolutions
namespace Auth

open Foundation

/-!
# Redirects after a login

The place that a visitor is sent to comes with the request.  It is read by the
rules of addresses against a page that does not exist, and what is returned is
the path that was read, not the text that was checked.
-/

variable {Origin : Type} [DecidableEq Origin]

/-- How an authority is read, and the origin of `http://local.invalid`. -/
structure AddressRules (Origin : Type) where
  authority : Origin -> List Char -> Option Origin
  localInvalid : Origin

def defaultRedirect : String := "/dashboard"

/-- `safeLocalRedirect` as far as it looks at the text itself. -/
def isRefused (text : List Char) : Bool :=
  text.isEmpty || text.head? ≠ some '/' || "//".toList.isPrefixOf text || text.contains '\\' ||
    text.any fun character => character = '\r' || character = '\n'

def safeLocalRedirect (rules : AddressRules Origin) (value : Option String) (fallback : String) : String :=
  match value with
  | none => fallback
  | some value =>
    if isRefused value.toList then fallback
    else
      match Url.resolve rules.authority rules.localInvalid value.toList with
      | none => fallback
      | some parsed => if parsed.origin = rules.localInvalid then String.ofList parsed.text else fallback

/-! ## What is wanted -/

/-- A path that is written as the rules would write it. -/
def LocalPath (text : String) : Prop :=
  Exists fun path => path ≠ [] ∧ (forall segment, segment ∈ path -> Url.NormalSegment segment) ∧
    ¬ Url.Doubled path ∧ text.toList = Url.pathname path

/-- A redirect that no page follows to another origin. -/
structure SafeRedirect (rules : AddressRules Origin) (fallback redirect : String) : Prop where
  stays : forall page, (Url.resolve rules.authority page redirect.toList).map Url.Located.origin = some page
  slash : redirect = fallback ∨ Url.OneSlash redirect.toList
  again : safeLocalRedirect rules (some redirect) fallback = redirect

/-- The value is not refused, and it leads to a path of the local page in which
an empty segment stands first, because all in front of it is gone up again, and
others follow it. -/
def Escapes (rules : AddressRules Origin) (value : Option String) : Prop :=
  Exists fun text => value = some text ∧ isRefused text.toList = false ∧
    Exists fun behind => Url.destination rules.authority rules.localInvalid text.toList =
      some (rules.localInvalid, behind) ∧ Url.WrittenDoubled (Url.rawPath behind)

/-! ## Redirects that stay -/

variable {rules : AddressRules Origin} {located : Url.Located Origin} {fallback : String}

theorem isRefused_oneSlash {text : List Char} (plain : forall character, character ∈ text -> Url.isEdge character = false)
    (noBackslash : '\\' ∉ text) (single : Url.OneSlash text) : isRefused text = false := by
  rcases single with ⟨rest, rfl, notSlash⟩
  have oneSlash : "//".toList.isPrefixOf ('/' :: rest) = false := by
    cases rest with
    | nil => rfl
    | cons first more =>
      have other : ¬ '/' = first := by
        rintro rfl
        exact absurd (notSlash '/' more rfl) (by decide)
      by_contra begins
      rw [Bool.not_eq_false, List.isPrefixOf_iff_prefix] at begins
      have second := (List.cons_prefix_cons.mp begins).2
      exact other (List.cons_prefix_cons.mp second).1
  have noBreak : (('/' :: rest).any fun character => character = '\r' || character = '\n') = false := by
    rw [List.any_eq_false]
    intro character member isBreak
    rw [Bool.or_eq_true, decide_eq_true_eq, decide_eq_true_eq] at isBreak
    have notEdge := plain character member
    rcases isBreak with rfl | rfl
    · exact absurd notEdge (by decide)
    · exact absurd notEdge (by decide)
  rw [isRefused, oneSlash, noBreak, List.contains_eq_mem, decide_eq_false noBackslash]
  rfl

theorem safeRedirect_of_normal (normal : located.Normal) (single : ¬ Url.Doubled located.path)
    (noBackslash : '\\' ∉ located.text) : SafeRedirect rules fallback (String.ofList located.text) where
  stays page := by
    rw [String.toList_ofList, normal.resolve single]
    rfl
  slash := by
    rw [String.toList_ofList]
    exact Or.inr (normal.oneSlash single)
  again := by
    rw [safeLocalRedirect, String.toList_ofList,
      isRefused_oneSlash normal.notEdge noBackslash (normal.oneSlash single), normal.resolve single]
    simp only [Bool.false_eq_true, if_false, if_true]
    rfl

theorem safeRedirect_fallback (plain : LocalPath fallback) : SafeRedirect rules fallback fallback := by
  rcases plain with ⟨path, some, normal, single, isText⟩
  let located : Url.Located Origin := ⟨rules.localInvalid, path, [], []⟩
  have isNormal : located.Normal :=
    ⟨some, normal, fun _ member => absurd member List.not_mem_nil, fun _ member => absurd member List.not_mem_nil⟩
  have sameText : located.text = fallback.toList := by
    rw [isText]
    exact List.append_nil _
  have noBackslash : '\\' ∉ located.text := by
    intro member
    rw [sameText, isText] at member
    rcases Url.mem_pathname member with isSlash | ⟨segment, inPath, inSegment⟩
    · exact absurd isSlash (by decide)
    · exact absurd ((normal segment inPath).noSlash _ inSegment) (by decide)
  have safe : SafeRedirect rules fallback (String.ofList located.text) :=
    safeRedirect_of_normal isNormal single noBackslash
  rw [sameText, String.ofList_toList] at safe
  exact safe

/-- A redirect is the fallback, or the text of where the value leads to. -/
theorem safeLocalRedirect_cases (value : Option String) :
    (safeLocalRedirect rules value fallback = fallback ∧ ¬ Escapes rules value) ∨
    Exists fun text => Exists fun behind => value = some text ∧ isRefused text.toList = false ∧
      Url.destination rules.authority rules.localInvalid text.toList = some (rules.localInvalid, behind) ∧
      safeLocalRedirect rules value fallback = String.ofList (Url.locate rules.localInvalid behind).text := by
  cases value with
  | none =>
    refine Or.inl ⟨rfl, ?_⟩
    rintro ⟨_, isSome, _⟩
    cases isSome
  | some text =>
    cases refused : isRefused text.toList with
    | true =>
      refine Or.inl ⟨?_, ?_⟩
      · rw [safeLocalRedirect, refused]
        rfl
      · rintro ⟨_, ⟨⟩, admitted, _⟩
        rw [refused] at admitted
        cases admitted
    | false =>
      cases found : Url.destination rules.authority rules.localInvalid text.toList with
      | none =>
        refine Or.inl ⟨?_, ?_⟩
        · rw [safeLocalRedirect, refused, Url.resolve, found]
          rfl
        · rintro ⟨_, ⟨⟩, _, behind, leads, _⟩
          rw [found] at leads
          cases leads
      | some target =>
        rcases target with ⟨origin, behind⟩
        have redirect : safeLocalRedirect rules (some text) fallback =
            if origin = rules.localInvalid then String.ofList (Url.locate origin behind).text else fallback := by
          rw [safeLocalRedirect, refused, Url.resolve, found]
          rfl
        by_cases isLocal : origin = rules.localInvalid
        · rw [if_pos isLocal] at redirect
          subst isLocal
          exact Or.inr ⟨text, behind, rfl, refused, found, redirect⟩
        · rw [if_neg isLocal] at redirect
          refine Or.inl ⟨redirect, ?_⟩
          rintro ⟨_, ⟨⟩, _, _, leads, _⟩
          rw [found] at leads
          cases leads
          exact isLocal rfl

/-- A redirect stays at its page exactly when the value does not escape. -/
theorem safeLocalRedirect_safe_iff (rules : AddressRules Origin) (value : Option String) (fallback : String)
    (plain : LocalPath fallback) :
    SafeRedirect rules fallback (safeLocalRedirect rules value fallback) ↔ ¬ Escapes rules value := by
  have single := (safeRedirect_fallback plain : SafeRedirect rules fallback fallback)
  rcases @safeLocalRedirect_cases Origin _ rules fallback value with
    ⟨isFallback, stays⟩ | ⟨text, behind, rfl, admitted, found, redirect⟩
  · rw [isFallback]
    exact iff_of_true single stays
  · let located := Url.locate rules.localInvalid behind
    have normal : located.Normal := Url.locate_normal rules.localInvalid behind
    rw [redirect]
    constructor
    · rintro safe ⟨_, ⟨⟩, _, _, leads, written⟩
      rw [found] at leads
      cases leads
      have doubled : Url.Doubled located.path := Url.doubled_of_written written
      have many : ¬ Url.OneSlash located.text := Url.not_oneSlash_of_doubled doubled
      rcases safe.slash with isFallback | oneSlash
      · rcases plain with ⟨path, some, segments, notDoubled, isText⟩
        have isNormal : Url.Located.Normal (⟨rules.localInvalid, path, [], []⟩ : Url.Located Origin) :=
          ⟨some, segments, fun _ member => absurd member List.not_mem_nil,
            fun _ member => absurd member List.not_mem_nil⟩
        have oneSlash := isNormal.oneSlash notDoubled
        have sameText : located.text = (⟨rules.localInvalid, path, [], []⟩ : Url.Located Origin).text := by
          have same := congrArg String.toList isFallback
          rw [String.toList_ofList, isText] at same
          rw [same]
          exact (List.append_nil _).symm
        rw [sameText] at many
        exact many oneSlash
      · rw [String.toList_ofList] at oneSlash
        exact many oneSlash
    · intro stays
      have notDoubled : ¬ Url.Doubled located.path :=
        fun doubled => stays ⟨text, rfl, admitted, behind, found, Url.written_of_doubled _ doubled⟩
      have noBackslash : '\\' ∉ located.text := by
        apply Url.noBackslash_locate
        intro member
        have inText := (Url.destination_sublist found).mem member
        rw [isRefused, Bool.or_eq_false_iff, Bool.or_eq_false_iff] at admitted
        rw [List.contains_eq_mem, decide_eq_false_iff_not] at admitted
        exact admitted.1.2 inText
      exact safeRedirect_of_normal normal notDoubled noBackslash

/-! ## Addresses -/

/-- Origins as texts, without ports and names that have to be converted. -/
def plainRules : AddressRules String where
  authority _ name := if name = [] then none else some (String.ofList ("http://".toList ++ name))
  localInvalid := "http://local.invalid"

theorem localPath_default : LocalPath defaultRedirect :=
  ⟨["dashboard".toList], by decide, by
    intro segment member
    cases List.mem_singleton.mp member
    exact ⟨forall_of_all (by decide), forall_of_all (by decide), by decide⟩, by decide, by decide⟩

theorem safeLocalRedirect_safe_of_account :
    safeLocalRedirect plainRules (some "/account/./orders/..?tab=a b#top") defaultRedirect =
      "/account/?tab=a%20b#top" ∧
    SafeRedirect plainRules defaultRedirect
      (safeLocalRedirect plainRules (some "/account/./orders/..?tab=a b#top") defaultRedirect) := by
  refine ⟨by decide +kernel, ?_⟩
  apply (safeLocalRedirect_safe_iff plainRules _ defaultRedirect localPath_default).mpr
  rintro ⟨_, ⟨⟩, _, behind, leads, written⟩
  have isBehind : Url.destination plainRules.authority plainRules.localInvalid
      "/account/./orders/..?tab=a b#top".toList =
        some (plainRules.localInvalid, "account/./orders/..?tab=a b#top".toList) := by
    decide +kernel
  rw [isBehind] at leads
  cases leads
  exact absurd (Url.doubled_of_written written) (by decide +kernel)

theorem safeLocalRedirect_leaves :
    safeLocalRedirect plainRules (some "/x/..//evil.example/login") defaultRedirect = "//evil.example/login" ∧
    (Url.resolve plainRules.authority "http://shop.example" "//evil.example/login".toList).map
      Url.Located.origin = some "http://evil.example" ∧
    safeLocalRedirect plainRules (some "//evil.example/login") defaultRedirect = defaultRedirect := by
  decide +kernel

end Auth
end DigitalSolutions
