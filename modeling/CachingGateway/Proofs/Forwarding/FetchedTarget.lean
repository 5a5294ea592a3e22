/-
What is fetched for a target. The address gives the scheme, the host and the number, the target the
path and the query; these are fetched as they were sent exactly when they are written as a URL writes
them, which a reader of targets does not ask for.
-/

import CachingGateway.Proofs.Http.TargetReading
import CachingGateway.Proofs.Settings.Runnable
import CachingGateway.Proofs.Url.PathText

namespace CachingGateway

/-! ### Characters of targets -/

namespace Target

structure IsAdmitted (target : Target) : Prop where
  path : ∀ character ∈ target.path.toList, isPathChar character = true
  query : ∀ query ∈ target.query, ∀ character ∈ query.toList, isQueryChar character = true

theorem isAdmitted_of_ofText? {text : String} {target : Target} (read : ofText? text = some target) :
    target.IsAdmitted := by
  cases reading_of_ofText? read with
  | authority name =>
      exact ⟨fun character member => by simp at member, fun _ asked => by cases asked⟩
  | everything =>
      exact ⟨List.all_eq_true.mp (by decide), fun _ asked => by cases asked⟩
  | @parts scheme authority behind path query opened parts =>
      obtain ⟨_, pathChars, queryChars⟩ := pathAndQuery?_spec parts
      constructor
      · intro character member
        rw [String.toList_ofList] at member
        split at member
        · rw [List.mem_singleton.mp member]
          rfl
        · exact List.all_eq_true.mp pathChars character member
      · intro asked present character member
        obtain ⟨inner, same, rfl⟩ := Option.map_eq_some_iff.mp present
        rw [String.toList_ofList] at member
        exact List.all_eq_true.mp (queryChars inner same) character member

/-- A path that a URL holds as it stands: ASCII without quotes, braces and backslashes, and without
dot segments, written with dots or encoded. -/
def StandsAsPath (path : String) : Prop :=
  (∀ character ∈ path.toList, character.toNat < 127 ∧ character ∉ ['"', '{', '}', '\\']) ∧
    ∀ segment ∈ Ascii.splitAt '/' path.toList,
      Url.isSingleDot segment = false ∧ Url.isDoubleDot segment = false

instance (path : String) : Decidable (StandsAsPath path) :=
  @instDecidableAnd _ _ (List.decidableBAll _ _) (List.decidableBAll _ _)

/-- A query that a URL holds as it stands: ASCII without apostrophes. -/
def StandsAsQuery (query : String) : Prop :=
  ∀ character ∈ query.toList, character.toNat < 127 ∧ character.toNat ≠ 39

instance (query : String) : Decidable (StandsAsQuery query) :=
  List.decidableBAll _ _

end Target

/-! ### What encoding leaves alone -/

namespace Percent

theorem encodedInPath_of_isPathChar {character : Char}
    (admitted : Target.isPathChar character = true) :
    encodedInPath character = false ↔
      character.toNat < 127 ∧ character ∉ ['"', '{', '}'] := by
  simp only [Target.isPathChar, Bool.or_eq_true, Bool.and_eq_true, beq_iff_eq,
    decide_eq_true_eq] at admitted
  simp only [encodedInPath, encodedInFragment, isControl, Bool.or_eq_false_iff,
    decide_eq_false_iff_not, List.mem_cons, List.not_mem_nil, or_false, ← Char.toNat_inj,
    Char.reduceToNat]
  omega

theorem encodedInSpecialQuery_of_isQueryChar {character : Char}
    (admitted : Target.isQueryChar character = true) :
    encodedInSpecialQuery character = false ↔
      character.toNat < 127 ∧ character.toNat ≠ 39 := by
  simp only [Target.isQueryChar, Bool.or_eq_true, Bool.and_eq_true, beq_iff_eq,
    decide_eq_true_eq] at admitted
  simp only [encodedInSpecialQuery, encodedInQuery, isControl, Bool.or_eq_false_iff,
    decide_eq_false_iff_not, ← Char.toNat_inj, Char.reduceToNat]
  omega

end Percent

namespace Target

theorem isWritten_iff {path : String}
    (admitted : ∀ character ∈ path.toList, isPathChar character = true) :
    Url.IsWritten path.toList ↔ StandsAsPath path := by
  constructor
  · rintro ⟨unencoded, forward, dotless⟩
    refine ⟨fun character member => ?_, dotless⟩
    have plain := (Percent.encodedInPath_of_isPathChar (admitted character member)).mp
      (unencoded character member)
    have other : character ≠ '\\' := by
      rintro rfl
      exact forward member
    simpa [other] using plain
  · rintro ⟨plain, dotless⟩
    refine ⟨fun character member => ?_, fun member => ?_, dotless⟩
    · apply (Percent.encodedInPath_of_isPathChar (admitted character member)).mpr
      have apart := plain character member
      simp only [List.mem_cons, List.not_mem_nil, or_false, not_or] at apart ⊢
      exact ⟨apart.1, apart.2.1, apart.2.2.1, apart.2.2.2.1⟩
    · exact absurd (plain _ member).2 (by decide)

theorem unencoded_iff_standsAsQuery {query : String}
    (admitted : ∀ character ∈ query.toList, isQueryChar character = true) :
    (∀ character ∈ query.toList, Percent.encodedInSpecialQuery character = false) ↔
      StandsAsQuery query :=
  forall₂_congr fun character member =>
    Percent.encodedInSpecialQuery_of_isQueryChar (admitted character member)

end Target

/-! ### The address that a target is fetched from -/

namespace Forwarder

variable {forwarder : Forwarder} {settings : OriginSettings} {request : Request}

theorem outbound_path (dispatches : forwarder.Dispatches) :
    (forwarder.outbound request).url.path =
      .segments (String.ofList (Url.pathText .network request.target.path.toList)) := by
  rw [outbound, Url.withoutUser_path, dispatches.path]

theorem outbound_query (dispatches : forwarder.Dispatches) :
    (forwarder.outbound request).url.query = request.target.query.map fun query =>
      String.ofList (Percent.encode Percent.encodedInSpecialQuery query.toList) := by
  have kind : Url.schemeKind (forwarder.address.withPath request.target.path).scheme = .network := by
    rw [Url.withPath_scheme]
    exact Url.schemeKind_of_http dispatches.scheme
  rw [outbound, Url.withoutUser_query, targetUrl, Url.withQuery, kind]
  rfl

theorem path_kept_iff (dispatches : forwarder.Dispatches) (admitted : request.target.IsAdmitted)
    (rooted : request.target.path.toList.head? = some '/') :
    (forwarder.outbound request).url.path = .segments request.target.path ↔
      Target.StandsAsPath request.target.path := by
  obtain ⟨rest, opened⟩ := List.head?_eq_some_iff.mp rooted
  have written := Url.pathText_eq_self_iff rest
  rw [← opened] at written
  rw [outbound_path dispatches, UrlPath.segments.injEq, ← String.toList_inj, String.toList_ofList,
    written, Target.isWritten_iff admitted.path]

theorem query_kept_iff (dispatches : forwarder.Dispatches) (admitted : request.target.IsAdmitted) :
    (forwarder.outbound request).url.query = request.target.query ↔
      ∀ query ∈ request.target.query, Target.StandsAsQuery query := by
  rw [outbound_query dispatches]
  cases asked : request.target.query with
  | none => simp
  | some query =>
      have kept := Target.unencoded_iff_standsAsQuery (admitted.query query asked)
      simp only [Option.map_some, Option.some.injEq, Option.mem_def, forall_eq']
      rw [← String.toList_inj, String.toList_ofList,
        Percent.encode_eq_self_iff Percent.marks_not_encodedInSpecialQuery, kept]

/-- The address gives the scheme, the host and the number, and a query is fetched when one was sent.
The path and the query are fetched as they were sent when a URL holds them as they stand; any other is
fetched as another text. -/
theorem fetched_as_sent_iff (made : ofSettings settings = .ok forwarder)
    (http : Url.NamesHttp settings.url) {text : String}
    (read : Target.ofText? text = some request.target)
    (rooted : request.target.path.toList.head? = some '/') :
    let url := (forwarder.outbound request).url
    (url.scheme = forwarder.address.scheme ∧ url.host = forwarder.address.host ∧
        url.portNumber = forwarder.address.portNumber) ∧
      url.query.isSome = request.target.query.isSome ∧
      (url.path = .segments request.target.path ↔ Target.StandsAsPath request.target.path) ∧
      (url.query = request.target.query ↔
        ∀ query ∈ request.target.query, Target.StandsAsQuery query) := by
  intro url
  have dispatches := (dispatches_iff made).mpr http
  have admitted := Target.isAdmitted_of_ofText? read
  refine ⟨⟨?_, ?_, ?_⟩, ?_, path_kept_iff dispatches admitted rooted,
    query_kept_iff dispatches admitted⟩
  · simp only [url, outbound, targetUrl, Url.withoutUser_scheme, Url.withQuery_scheme,
      Url.withPath_scheme]
  · simp only [url, outbound, targetUrl, Url.withoutUser_host, Url.withQuery_host,
      Url.withPath_host]
  · simp only [url, outbound, targetUrl, Url.withoutUser_portNumber, Url.withQuery_portNumber,
      Url.withPath_portNumber]
  · rw [outbound_query dispatches, Option.isSome_map]

/-! ### A target without dots and one that climbs -/

def nearbySettings : OriginSettings :=
  { OriginSettings.default with forbiddenHeaders := [] }

def nearby : Forwarder where
  address := ⟨"http", "", none, some (.domain "localhost"), some 8081, .segments "/", none, none⟩
  forbidden := []
  timeout := Duration.ofSeconds 30

def readOf (path : String) (query : Option String) : Request :=
  ⟨Method.get, ⟨none, "", path, query⟩, Headers.empty, [], none⟩

theorem fetched_as_sent_of_dotless :
    ofSettings nearbySettings = .ok nearby ∧ Url.NamesHttp nearbySettings.url ∧
      Target.ofText? "/a%20b/.c//d;e?x=%27&y" =
        some (readOf "/a%20b/.c//d;e" (some "x=%27&y")).target ∧
      (readOf "/a%20b/.c//d;e" (some "x=%27&y")).target.path.toList.head? = some '/' ∧
      (nearby.outbound (readOf "/a%20b/.c//d;e" (some "x=%27&y"))).url.path =
        .segments "/a%20b/.c//d;e" ∧
      (nearby.outbound (readOf "/a%20b/.c//d;e" (some "x=%27&y"))).url.query =
        some "x=%27&y" := by
  have made : ofSettings nearbySettings = .ok nearby := by decide +kernel
  have http : Url.NamesHttp nearbySettings.url := by decide +kernel
  have read : Target.ofText? "/a%20b/.c//d;e?x=%27&y" =
      some (readOf "/a%20b/.c//d;e" (some "x=%27&y")).target := by
    decide +kernel
  have rooted : (readOf "/a%20b/.c//d;e" (some "x=%27&y")).target.path.toList.head? = some '/' := by
    decide
  have pathStands : Target.StandsAsPath "/a%20b/.c//d;e" := by decide +kernel
  have queryStands : Target.StandsAsQuery "x=%27&y" := by decide +kernel
  obtain ⟨_, _, path, query⟩ := fetched_as_sent_iff made http read rooted
  refine ⟨made, http, read, rooted, path.mpr pathStands, query.mpr ?_⟩
  rintro _ ⟨⟩
  exact queryStands

/-- A target that climbs is fetched from the address of another one. -/
theorem climbing_target_fetched_elsewhere :
    ofSettings nearbySettings = .ok nearby ∧ Url.NamesHttp nearbySettings.url ∧
      Target.ofText? "/a/../b" = some (readOf "/a/../b" none).target ∧
      (nearby.outbound (readOf "/a/../b" none)).url.path = .segments "/b" ∧
      (nearby.outbound (readOf "/a/../b" none)).url.path ≠
        .segments (readOf "/a/../b" none).target.path ∧
      (nearby.outbound (readOf "/a/../b" none)).url =
        (nearby.outbound (readOf "/b" none)).url := by
  refine ⟨?_, ?_, ?_, ?_, ?_, ?_⟩
  all_goals decide +kernel

end Forwarder

end CachingGateway
