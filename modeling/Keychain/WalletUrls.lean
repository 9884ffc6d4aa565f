import Keychain.Go.Crossmint
import Keychain.Lib.Uri
import Keychain.Rust.Crossmint.Target

/-!
Where the URLs of the Crossmint wallets API lead a client.

An encoded text has no separator and decodes to itself, but a dot is not escaped. So the
inputs are the segments of the path in their order if and only if none of them is a dot
segment (`walletUrl_confined_iff`), in Rust and in Go.
-/

namespace Keychain

open Uri (Segment Standard percentDecode percentDecode_cons percentDecode_escape isDot isMark
  removeDotSegments pathSegments)

/-- A property of all bytes, checked for their values. -/
theorem forall_byte {P : UInt8 → Prop} (all : ∀ n < 0x100, P n.toUInt8) (byte : UInt8) :
    P byte := by
  have here := all byte.toNat byte.toNat_lt
  rwa [Nat.toUInt8_eq, UInt8.ofNat_toNat] at here

/-! ## An encoded text as a segment -/

namespace Rust

variable {input : String} {standard : Standard}

/-- The characters of an encoded text. -/
def encoded (input : String) : Segment := (encodeUriComponent input).toList

theorem encoded_eq_flatMap :
    encoded input = (utf8 input).flatMap encodeUriComponent.encodeByte := by
  rw [encoded, encodeUriComponent, String.toList_ofList]

theorem ascii_of_unreserved :
    ∀ byte, encodeUriComponent.unreserved byte = true → byte.toNat ≤ 0x7f := by
  apply forall_byte
  decide +kernel

theorem hexDigit_upperDigit : ∀ n < 16, Uri.hexDigit (Nat.digitChar n).toUpper = some n := by
  decide +kernel

theorem percentDecode_encodeByte (byte : UInt8) (rest : Segment) :
    percentDecode (encodeUriComponent.encodeByte byte ++ rest) = byte :: percentDecode rest := by
  have small := byte.toNat_lt
  rw [encodeUriComponent.encodeByte]
  by_cases plain : encodeUriComponent.unreserved byte = true
  · have value := toNat_ofNat_byte byte
    have narrow := ascii_of_unreserved byte plain
    rw [if_pos plain, List.singleton_append, percentDecode_cons (unreserved_ne_percent plain),
      utf8EncodeChar_of_ascii (by omega), value, Nat.toUInt8_eq, UInt8.ofNat_toNat,
      List.singleton_append]
  · have high := hexDigit_upperDigit (byte.toNat / 16) (by omega)
    have low := hexDigit_upperDigit (byte.toNat % 16) (by omega)
    have whole : 16 * (byte.toNat / 16) + byte.toNat % 16 = byte.toNat := by omega
    rw [if_neg plain]
    refine (percentDecode_escape high low).trans ?_
    rw [whole, UInt8.ofNat_toNat]
    rfl

/-- An encoded text decodes to the text. -/
theorem percentDecode_encoded : percentDecode (encoded input) = utf8 input := by
  rw [encoded_eq_flatMap]
  exact Uri.percentDecode_flatMap percentDecode_encodeByte _

/-- An encoded text has no separator. -/
theorem separator_not_mem_encoded {c : Char} (member : c ∈ encoded input) :
    c ≠ '/' ∧ isMark c = false := by
  have all : ∀ byte, ((encodeUriComponent.encodeByte byte).all fun c =>
      c ≠ '/' ∧ isMark c = false) = true := by
    apply forall_byte
    decide +kernel
  rw [encoded_eq_flatMap, List.mem_flatMap] at member
  obtain ⟨byte, -, member⟩ := member
  exact of_decide_eq_true (List.all_eq_true.mp (all byte) c member)

/-- Only the dots themselves are dot segments when they are encoded. -/
theorem isDot_encoded : isDot standard (encoded input) = true ↔ input = "." ∨ input = ".." := by
  constructor
  · intro dot
    rcases Uri.percentDecode_of_isDot dot with single | double
    · rw [percentDecode_encoded] at single
      exact .inl (utf8_injective (single.trans (by decide)))
    · rw [percentDecode_encoded] at double
      exact .inr (utf8_injective (double.trans (by decide)))
  · intro dots
    rcases dots with rfl | rfl
    · cases standard <;> decide +kernel
    · cases standard <;> decide +kernel

end Rust

/-! ## The URL of a wallet -/

/-- The segments between the base path and the inputs. -/
def walletsPath : List Segment := ["2025-06-09".toList, "wallets".toList]

/-- To a client of the standard, the URL is the base URL with a path of the inputs, one segment
for each. -/
structure Confined (standard : Standard) (base : String) (inputs : List String) (url : String) :
    Prop where
  scheme : (Uri.parse url.toList).scheme = (Uri.parse base.toList).scheme
  authority : (Uri.parse url.toList).authority = (Uri.parse base.toList).authority
  path : ∃ segments,
    removeDotSegments standard (pathSegments (Uri.parse url.toList).path) =
      Uri.resolve standard (pathSegments (Uri.parse base.toList).path) ++
        (walletsPath ++ segments) ∧
    List.Forall₂ (fun segment input => percentDecode segment = utf8 input) segments inputs
  query : (Uri.parse url.toList).query = (Uri.parse base.toList).query
  fragment : (Uri.parse url.toList).fragment = (Uri.parse base.toList).fragment

/-- What the builders of both ports put behind a base URL. -/
def walletUrl (base locator : String) (segments : List String) : String :=
  Rust.Crossmint.CrossmintSigner.pushSegments
    (base ++ "/2025-06-09/wallets/" ++ Rust.encodeUriComponent locator) segments

section

variable {standard : Standard} {base locator url : String} {segments inputs : List String}

open Rust Rust.Crossmint.CrossmintSigner

theorem toList_pushSegments :
    (pushSegments url segments).toList =
      url.toList ++ segments.flatMap fun segment => '/' :: encoded segment := by
  induction segments generalizing url with
  | nil => exact (List.append_nil _).symm
  | cons segment segments ih =>
    rw [pushSegments_cons, ih, List.flatMap_cons, String.toList_append, String.toList_append,
      List.append_assoc, List.append_assoc]
    rfl

theorem intercalate_slash {first : Segment} {rest : List Segment} :
    ['/'].intercalate (first :: rest) = first ++ rest.flatMap ('/' :: ·) := by
  induction rest generalizing first with
  | nil => rw [List.intercalate_singleton, List.flatMap_nil, List.append_nil]
  | cons second rest ih =>
    rw [List.intercalate_cons_cons, ih, List.flatMap_cons, List.append_assoc]
    rfl

/-- Behind the base URL stand the segments, each behind a slash. -/
theorem toList_walletUrl :
    (walletUrl base locator segments).toList =
      base.toList ++ '/' ::
        ['/'].intercalate (walletsPath ++ (locator :: segments).map encoded) := by
  rw [walletUrl, toList_pushSegments, String.toList_append, String.toList_append, walletsPath,
    List.cons_append, intercalate_slash, List.flatMap_append, List.flatMap_map, List.append_assoc,
    List.append_assoc, List.flatMap_cons]
  rfl

theorem separator_not_mem_walletsPath (inputs : List String) {segment : Segment} {c : Char}
    (segment_mem : segment ∈ walletsPath ++ inputs.map encoded) (member : c ∈ segment) :
    c ≠ '/' ∧ isMark c = false := by
  rcases List.mem_append.mp segment_mem with fixed | given
  · have all : ∀ segment ∈ walletsPath,
        (segment.all fun c => c ≠ '/' ∧ isMark c = false) = true := by
      decide +kernel
    exact of_decide_eq_true (List.all_eq_true.mp (all segment fixed) c member)
  · obtain ⟨input, -, rfl⟩ := List.mem_map.mp given
    exact separator_not_mem_encoded member

theorem splitOn_walletsPath :
    (['/'].intercalate (walletsPath ++ inputs.map encoded)).splitOn '/' =
      walletsPath ++ inputs.map encoded := by
  apply List.splitOn_intercalate
  · intro segment segment_mem slash
    exact (separator_not_mem_walletsPath inputs segment_mem slash).1 rfl
  · exact List.cons_ne_nil _ _

theorem isMark_walletsPath {c : Char}
    (member : c ∈ ['/'].intercalate (walletsPath ++ inputs.map encoded)) : isMark c = false := by
  rw [walletsPath, List.cons_append, intercalate_slash, List.mem_append, List.mem_flatMap] at member
  rcases member with member | ⟨segment, segment_mem, member⟩
  · exact (separator_not_mem_walletsPath inputs List.mem_cons_self member).2
  · rcases List.mem_cons.mp member with rfl | member
    · rfl
    · exact (separator_not_mem_walletsPath inputs (List.mem_cons_of_mem _ segment_mem) member).2

theorem head?_walletsPath :
    (['/'].intercalate (walletsPath ++ inputs.map encoded)).head? = some '2' := by
  rw [walletsPath, List.cons_append, intercalate_slash]
  rfl

theorem isDot_walletsPath : ∀ segment ∈ walletsPath, isDot standard segment = false := by
  cases standard <;> decide +kernel

/-- An empty segment stands for no dot. -/
theorem percentDecode_nil_ne_utf8 {input : String}
    (dot : isDot standard (encoded input) = true) : percentDecode [] ≠ utf8 input := by
  rcases isDot_encoded.mp dot with rfl | rfl <;> decide +kernel

/-- Behind any path, the inputs stay its segments if and only if none of them is a dot. -/
theorem exists_segments_read_iff {path : List Segment} (nonempty : inputs ≠ []) :
    (∃ segments,
      removeDotSegments standard (path ++ (walletsPath ++ inputs.map encoded)) =
        Uri.resolve standard path ++ (walletsPath ++ segments) ∧
      List.Forall₂ (fun segment input => percentDecode segment = utf8 input) segments inputs) ↔
      ∀ input ∈ inputs, input ≠ "." ∧ input ≠ ".." := by
  rw [Uri.exists_removeDotSegments_append_iff (fun _ => percentDecode_encoded)
    (fun _ => percentDecode_nil_ne_utf8) isDot_walletsPath nonempty]
  simp only [← Bool.not_eq_true, isDot_encoded, not_or, ne_eq]

/-- A query or a fragment of the base URL takes in all that is appended. -/
theorem not_confined_of_marked (marked : ∃ c ∈ base.toList, isMark c = true) :
    ¬ Confined standard base (locator :: segments) (walletUrl base locator segments) := by
  intro confined
  obtain ⟨read, removed, -⟩ := confined.path
  rw [toList_walletUrl, Uri.path_append_of_marked marked, removeDotSegments,
    List.append_cancel_left_eq] at removed
  split at removed
  · rw [walletsPath, List.cons_append, List.cons.injEq] at removed
    exact absurd removed.1 (by decide)
  · cases removed

/-- The inputs stay the segments of the path if and only if none of them is a dot segment. -/
theorem walletUrl_confined_iff (solid : base.toList.getLast? ≠ some '/') :
    Confined standard base (locator :: segments) (walletUrl base locator segments) ↔
      (∀ c ∈ base.toList, isMark c = false) ∧
        ∀ input ∈ locator :: segments, input ≠ "." ∧ input ≠ ".." := by
  by_cases marked : ∃ c ∈ base.toList, isMark c = true
  · refine iff_of_false (not_confined_of_marked marked) fun plain => ?_
    obtain ⟨c, member, mark⟩ := marked
    rw [plain.1 c member] at mark
    cases mark
  have plain : ∀ c ∈ base.toList, isMark c = false := by
    intro c member
    rw [← Bool.not_eq_true]
    exact fun mark => marked ⟨c, member, mark⟩
  have parsed : Uri.parse (walletUrl base locator segments).toList =
      { Uri.parse base.toList with
        path := (Uri.parse base.toList).path ++
          '/' :: ['/'].intercalate (walletsPath ++ (locator :: segments).map encoded) } := by
    rw [toList_walletUrl]
    refine Uri.parse_append plain (fun c => isMark_walletsPath) solid ?_
    rw [head?_walletsPath]
    decide
  constructor
  · intro confined
    have path := confined.path
    rw [parsed, Uri.pathSegments_append, splitOn_walletsPath] at path
    exact ⟨plain, (exists_segments_read_iff (List.cons_ne_nil _ _)).mp path⟩
  · intro undotted
    refine ⟨by rw [parsed], by rw [parsed], ?_, by rw [parsed], by rw [parsed]⟩
    rw [parsed, Uri.pathSegments_append, splitOn_walletsPath]
    exact (exists_segments_read_iff (List.cons_ne_nil _ _)).mpr undotted.2

end

section

variable {c : Char} {text : String}

theorem getLast?_trimEndMatches : (trimEndMatches c text).toList.getLast? ≠ some c := by
  rw [trimEndMatches, String.toList_ofList, List.getLast?_reverse]
  intro last
  have kept := List.head?_dropWhile_not (· = c) text.toList.reverse
  rw [last] at kept
  exact absurd kept (by simp)

/-- What holds of the trimmed character and of the trimmed text holds of the text. -/
theorem forall_mem_trimEndMatches {p : Char → Prop} (trimmed : p c) :
    (∀ d ∈ (trimEndMatches c text).toList, p d) ↔ ∀ d ∈ text.toList, p d := by
  have parts := List.takeWhile_append_dropWhile (p := (· = c)) (l := text.toList.reverse)
  have mem (d : Char) : d ∈ text.toList ↔ d ∈ text.toList.reverse.takeWhile (· = c) ∨
      d ∈ text.toList.reverse.dropWhile (· = c) := by
    rw [← List.mem_append, parts, List.mem_reverse]
  have taken (d : Char) (member : d ∈ text.toList.reverse.takeWhile (· = c)) : p d := by
    have same := List.mem_takeWhile_imp member
    rw [decide_eq_true_eq] at same
    exact same ▸ trimmed
  simp only [trimEndMatches, String.toList_ofList, List.mem_reverse]
  constructor
  · intro all d member
    rcases (mem d).mp member with front | back
    · exact taken d front
    · exact all d back
  · intro all d member
    exact all d ((mem d).mpr (.inr member))

end

/-! ## The builders -/

namespace Rust.Crossmint.CrossmintSigner

section

variable [Crates] {signer : CrossmintSigner} {segments : List String} {base : Url} {url : String}

theorem buildWalletsApiUrl_eq (parsed : Crates.urlParse signer.apiBaseUrl = .ok base)
    (built : signer.buildWalletsApiUrl segments = .ok url) :
    url = walletUrl (trimEndMatches '/' base.asStr) signer.walletLocator segments := by
  obtain ⟨found, parsed', built⟩ := bind_eq_ok.mp built
  rw [parsed] at parsed'
  cases parsed'
  obtain ⟨_, -, built⟩ := bind_eq_ok.mp built
  exact (Except.ok.inj built).symm

/-- The locator and the segments stay the segments of the path, if and only if the base URL has
neither a query nor a fragment and none of them is a dot segment. -/
theorem buildWalletsApiUrl_confined_iff (standard : Standard)
    (parsed : Crates.urlParse signer.apiBaseUrl = .ok base)
    (built : signer.buildWalletsApiUrl segments = .ok url) :
    Confined standard (trimEndMatches '/' base.asStr) (signer.walletLocator :: segments) url ↔
      (∀ c ∈ base.asStr.toList, isMark c = false) ∧
        ∀ input ∈ signer.walletLocator :: segments, input ≠ "." ∧ input ≠ ".." := by
  rw [buildWalletsApiUrl_eq parsed built, walletUrl_confined_iff getLast?_trimEndMatches,
    forall_mem_trimEndMatches (p := fun c => isMark c = false) rfl]

end

section

local instance walletCrates : Crates :=
  .linked emptyDigest (fun _ => .error "expected value") fun _ => ""

/-- The URL of a transaction with the id `../tx?1#`. -/
def escapedUrl : String :=
  "https://staging.crossmint.com/api/2025-06-09/wallets/wallet/transactions/..%2Ftx%3F1%23"

/-- An id with separators is one segment. -/
theorem poller_confined :
    Confined .whatwg "https://staging.crossmint.com/api"
      (poller.walletLocator :: ["transactions", "../tx?1#"]) escapedUrl := by
  have parsed : Crates.urlParse poller.apiBaseUrl =
      .ok ⟨"https://staging.crossmint.com/api", "https", false⟩ := rfl
  have built : poller.buildWalletsApiUrl ["transactions", "../tx?1#"] = .ok escapedUrl := by
    decide +kernel
  have plain : ("https://staging.crossmint.com/api".toList.all fun c => isMark c = false) =
      true := by
    decide +kernel
  exact (buildWalletsApiUrl_confined_iff .whatwg parsed built).mpr
    ⟨fun c member => of_decide_eq_true (List.all_eq_true.mp plain c member), by decide +kernel⟩

/-- The URL of a transaction with the id `..`. -/
def parentUrl : String :=
  "https://staging.crossmint.com/api/2025-06-09/wallets/wallet/transactions/.."

/-- It leads from the transactions to the wallet. -/
theorem parentUrl_leaves_transactions :
    poller.buildWalletsApiUrl ["transactions", ".."] = .ok parentUrl ∧
      (∀ standard, removeDotSegments standard (pathSegments (Uri.parse parentUrl.toList).path) =
        ["api".toList, "2025-06-09".toList, "wallets".toList, "wallet".toList, []]) ∧
      ∀ standard, ¬ Confined standard "https://staging.crossmint.com/api"
        (poller.walletLocator :: ["transactions", ".."]) parentUrl := by
  refine ⟨by decide +kernel, fun standard => ?_, fun standard confined => ?_⟩
  · cases standard <;> decide +kernel
  · have solid : "https://staging.crossmint.com/api".toList.getLast? ≠ some '/' := by
      decide +kernel
    have url : parentUrl = walletUrl "https://staging.crossmint.com/api" poller.walletLocator
        ["transactions", ".."] := by
      decide +kernel
    rw [url, walletUrl_confined_iff solid] at confined
    exact absurd rfl (confined.2 ".." (by decide)).2

end

end Rust.Crossmint.CrossmintSigner

/-! ## The builder in Go -/

namespace Go

theorem encodeURIComponent_eq {input : String} :
    encodeURIComponent input = Rust.encodeUriComponent input := by
  have all : ∀ byte, (isAlphanumeric byte || (utf8 "-_.!~*'()").contains byte) =
      Rust.encodeUriComponent.unreserved byte := by
    apply forall_byte
    decide +kernel
  rw [encodeURIComponent, percentEncode, Rust.encodeUriComponent]
  congr 1
  apply List.flatMap_congr
  intro byte _
  rw [Rust.encodeUriComponent.encodeByte, all byte]

namespace Crossmint.Signer

variable [Packages] {signer : Signer} {segments : List String} {url : String}

theorem buildWalletsAPIURL_eq (built : signer.buildWalletsAPIURL segments = .ok url) :
    url = walletUrl (trimEndMatches '/' signer.apiBaseURL) signer.walletLocator segments := by
  obtain ⟨_, -, built⟩ := bind_eq_ok.mp built
  obtain ⟨_, -, built⟩ := bind_eq_ok.mp built
  rw [← Except.ok.inj built, walletUrl, Rust.Crossmint.CrossmintSigner.pushSegments]
  simp only [encodeURIComponent_eq]

/-- The URLs of the Go signer lead where those of the Rust signer do. -/
theorem confined_buildWalletsAPIURL_iff (standard : Standard)
    (built : signer.buildWalletsAPIURL segments = .ok url) :
    Confined standard (trimEndMatches '/' signer.apiBaseURL) (signer.walletLocator :: segments)
        url ↔
      (∀ c ∈ signer.apiBaseURL.toList, isMark c = false) ∧
        ∀ input ∈ signer.walletLocator :: segments, input ≠ "." ∧ input ≠ ".." := by
  rw [buildWalletsAPIURL_eq built, walletUrl_confined_iff getLast?_trimEndMatches,
    forall_mem_trimEndMatches (p := fun c => isMark c = false) rfl]

end Crossmint.Signer

end Go

end Keychain
