/-
The parts of a URL that has been read. Its scheme is the one at the front of its text, in any case of
letters; a scheme that names a network host comes with a host and a path in segments, and another
path or query leaves both as they are.
-/

import CachingGateway.Proofs.Text.LetterCase
import CachingGateway.Url.Basic
import Mathlib.Data.List.Basic

namespace CachingGateway

theorem Except.eq_ok_of_bind {failure first second : Type} {step : Except failure first}
    {next : first → Except failure second} {result : second} (done : (step >>= next) = .ok result) :
    ∃ found, step = .ok found ∧ next found = .ok result := by
  cases step with
  | error failure => cases done
  | ok found => exact ⟨found, rfl, done⟩

namespace Url

/-! ### The front of a URL -/

/-- The scheme of a text is a name when the text, its capitals lowered, begins with the name and a
colon. -/
theorem scheme?_iff_prefix {name : List Char} (more : name ≠ [])
    (letters : ∀ character ∈ name, Ascii.isLetter character = true) (text : List Char) :
    (∃ rest, scheme? text = some (String.ofList name, rest)) ↔
      name ++ [':'] <+: Ascii.lower text := by
  constructor
  · rintro ⟨rest, found⟩
    simp only [scheme?] at found
    split at found
    · rename_i first others behind taken dropped
      split at found
      · simp only [Option.some.injEq, Prod.mk.injEq, String.ofList_inj] at found
        have front := List.prefix_iff_eq_take.mp (List.takeWhile_prefix isSchemeChar (l := text))
        have joined := List.take_append_drop (text.takeWhile isSchemeChar).length text
        rw [← front, dropped] at joined
        have lowered : Ascii.lower (text.takeWhile isSchemeChar) ++ Ascii.lower (':' :: behind) =
            Ascii.lower text := by
          rw [Ascii.lower, Ascii.lower, ← List.map_append, joined, Ascii.lower]
        rw [← lowered, found.1]
        exact ⟨Ascii.lower behind, by rw [List.append_assoc]; rfl⟩
      · cases found
    · cases found
  · rintro ⟨tail, lowered⟩
    rw [List.append_assoc, Ascii.lower, eq_comm, List.map_eq_append_iff] at lowered
    obtain ⟨front, behind, rfl, named, after⟩ := lowered
    obtain ⟨mark, rest, rfl, colon, _⟩ := List.map_eq_cons_iff.mp after
    have isColon := (Ascii.lowerChar_eq_iff ':' rfl).mp colon
    subst isColon
    have frontLetters : ∀ character ∈ front, Ascii.isLetter character = true := by
      intro character member
      apply Ascii.isLetter_of_lowerChar
      apply letters
      rw [← named]
      exact List.mem_map_of_mem member
    have taken : (front ++ ':' :: rest).takeWhile isSchemeChar = front := by
      rw [List.takeWhile_append_of_pos]
      · rw [List.takeWhile_cons_of_neg (by decide), List.append_nil]
      · intro character member
        simp [isSchemeChar, Ascii.isAlphanumeric, frontLetters character member]
    have dropped : (front ++ ':' :: rest).drop front.length = ':' :: rest := List.drop_left ..
    obtain ⟨first, others, rfl⟩ : ∃ first others, front = first :: others := by
      apply List.exists_cons_of_ne_nil
      rintro rfl
      exact more named.symm
    refine ⟨rest, ?_⟩
    simp only [scheme?, taken, dropped]
    rw [if_pos (frontLetters first List.mem_cons_self), ← named]
    rfl

theorem host_of_authority {scheme : String} {text : List Char} {followed : Bool} {found : Authority}
    (read : authority scheme text followed = .ok found) : found.host.isSome = true := by
  simp only [authority] at read
  -- User information is there or not; neither has a part in the host.
  split at read
  all_goals
    split at read
    · cases read
    · obtain ⟨host, _, read⟩ := Except.eq_ok_of_bind read
      split at read
      · cases read
      · obtain ⟨number, _, read⟩ := Except.eq_ok_of_bind read
        cases read
        rfl

theorem afterSlashes_spec {scheme : String} {text : List Char} {url : Url}
    (read : afterSlashes scheme text = .ok url) :
    url.scheme = scheme ∧ url.host.isSome = true ∧ ∃ path, url.path = .segments path := by
  obtain ⟨found, named, read⟩ := Except.eq_ok_of_bind read
  cases read
  exact ⟨rfl, host_of_authority named, _, rfl⟩

theorem scheme_of_fileUrl {text : List Char} {url : Url} (read : fileUrl text = .ok url) :
    url.scheme = "file" := by
  simp only [fileUrl] at read
  split at read
  · obtain ⟨_, _, read⟩ := Except.eq_ok_of_bind read
    cases read
    rfl
  · cases read
    rfl

theorem scheme_of_otherUrl {scheme : String} {text : List Char} {url : Url}
    (read : otherUrl scheme text = .ok url) : url.scheme = scheme := by
  unfold otherUrl at read
  split at read
  · exact (afterSlashes_spec read).1
  · cases read
    rfl
  · cases read
    rfl

theorem schemeKind_eq_file {scheme : String} (kind : schemeKind scheme = .file) :
    scheme = "file" := by
  unfold schemeKind at kind
  split at kind
  · assumption
  · split at kind <;> cases kind

theorem schemeKind_of_http {scheme : String} (http : scheme = "http" ∨ scheme = "https") :
    schemeKind scheme = .network := by
  rcases http with rfl | rfl <;> rfl

theorem parse_spec {text : String} {url : Url} (read : parse text = .ok url) :
    (∃ rest, scheme? (clean text.toList) = some (url.scheme, rest)) ∧
      (schemeKind url.scheme = .network →
        url.host.isSome = true ∧ ∃ path, url.path = .segments path) := by
  unfold parse at read
  split at read
  · cases read
  · rename_i scheme rest found
    split at read
    · rename_i kind
      have same := scheme_of_fileUrl read
      rw [found, same, schemeKind_eq_file kind]
      exact ⟨⟨rest, rfl⟩, fun other => by cases other⟩
    · obtain ⟨same, host, path⟩ := afterSlashes_spec read
      exact ⟨⟨rest, by rw [found, same]⟩, fun _ => ⟨host, path⟩⟩
    · rename_i kind
      have same := scheme_of_otherUrl read
      refine ⟨⟨rest, by rw [found, same]⟩, fun other => ?_⟩
      rw [same, kind] at other
      cases other

/-! ### Changes of path and query -/

@[simp] theorem withPath_scheme (url : Url) (path : String) :
    (url.withPath path).scheme = url.scheme := by
  unfold withPath
  split <;> rfl

@[simp] theorem withQuery_scheme (url : Url) (query : Option String) :
    (url.withQuery query).scheme = url.scheme :=
  rfl

@[simp] theorem withoutUser_scheme (url : Url) : url.withoutUser.scheme = url.scheme := by
  unfold withoutUser
  split <;> rfl

@[simp] theorem withPath_host (url : Url) (path : String) : (url.withPath path).host = url.host := by
  unfold withPath
  split <;> rfl

@[simp] theorem withQuery_host (url : Url) (query : Option String) :
    (url.withQuery query).host = url.host :=
  rfl

@[simp] theorem withoutUser_host (url : Url) : url.withoutUser.host = url.host := by
  unfold withoutUser
  split <;> rfl

@[simp] theorem withPath_portNumber (url : Url) (path : String) :
    (url.withPath path).portNumber = url.portNumber := by
  unfold withPath
  split <;> rfl

@[simp] theorem withQuery_portNumber (url : Url) (query : Option String) :
    (url.withQuery query).portNumber = url.portNumber :=
  rfl

@[simp] theorem withoutUser_portNumber (url : Url) :
    url.withoutUser.portNumber = url.portNumber := by
  unfold withoutUser
  split <;> rfl

@[simp] theorem withoutUser_path (url : Url) : url.withoutUser.path = url.path := by
  unfold withoutUser
  split <;> rfl

@[simp] theorem withoutUser_query (url : Url) : url.withoutUser.query = url.query := by
  unfold withoutUser
  split <;> rfl

theorem withPath_path {url : Url} {old : String} (segments : url.path = .segments old)
    (path : String) :
    (url.withPath path).path =
      .segments (String.ofList (pathText (schemeKind url.scheme) path.toList)) := by
  rw [withPath, segments]

end Url

end CachingGateway
