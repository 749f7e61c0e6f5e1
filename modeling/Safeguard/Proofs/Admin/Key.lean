import Safeguard.Proofs.Admin.Strangers
import Safeguard.Proofs.Config.Accepted

/-!
# Keys that open the admin interface

An authorization counts only if it can be read as text, that is as ASCII, while a key can be any
text. A key of ASCII alone opens the interface to whoever presents it
(`Request.not_lacks_of_isAscii`). A key with a character beyond ASCII opens it to nobody, whatever
is presented (`Request.lacks_of_not_isAscii`), though it is accepted like any other key.
-/

namespace Safeguard

/-! ## Texts and their bytes -/

namespace Text

/-- Whether a text has no character beyond ASCII. -/
def IsAscii (s : String) : Prop := ∀ c ∈ s.toList, c.toNat < 0x80

instance (s : String) : Decidable (IsAscii s) :=
  List.decidableBAll (fun c : Char => c.toNat < 0x80) s.toList

theorem isAscii_append {s t : String} : IsAscii (s ++ t) ↔ IsAscii s ∧ IsAscii t := by
  simp only [IsAscii, String.toList_append, List.mem_append, or_imp, forall_and]

/-- A text is encoded character by character. -/
theorem utf8Encode_eq_flatMap (s : String) :
    utf8Encode s = s.toList.flatMap String.utf8EncodeChar := by
  have bytes : s.toUTF8 = s.toList.utf8Encode := String.utf8Encode_toList.symm
  rw [utf8Encode, bytes, List.utf8Encode, List.toList_data_toByteArray]

theorem utf8Encode_append (s t : String) :
    utf8Encode (s ++ t) = utf8Encode s ++ utf8Encode t := by
  simp only [utf8Encode_eq_flatMap, String.toList_append, List.flatMap_append]

/-- A text of ASCII has one byte for each character. -/
theorem utf8Encode_of_isAscii {s : String} (ascii : IsAscii s) :
    utf8Encode s = s.toList.map fun c => UInt8.ofNat c.toNat := by
  have byte : ∀ c ∈ s.toList, String.utf8EncodeChar c = [UInt8.ofNat c.toNat] := by
    intro c mem
    have small : c.val.toNat ≤ 127 := Nat.le_of_lt_succ (ascii c mem)
    simp only [String.utf8EncodeChar, if_pos small]
    rfl
  rw [utf8Encode_eq_flatMap, List.map_eq_flatMap]
  exact List.flatMap_congr byte

end Text

namespace HeaderValue

variable {value : HeaderValue} {text : String}

/-- Bytes that can be read as text are ASCII. -/
theorem lt_of_isTextByte {b : UInt8} (h : isTextByte b = true) : b.toNat < 0x80 := by
  simp only [isTextByte, Bool.or_eq_true, decide_eq_true_eq, Bool.and_eq_true] at h
  obtain rfl | ⟨-, lt⟩ := h
  · decide
  · have : b.toNat < 0x7F := UInt8.lt_iff_toNat_lt.mp lt
    omega

/-- Bytes of a value that are ASCII can be read as text. -/
theorem isTextByte_of_lt {b : UInt8} (h : isHeaderByte b = true) (ascii : b.toNat < 0x80) :
    isTextByte b = true := by
  simp only [isHeaderByte, isTextByte, Bool.or_eq_true, decide_eq_true_eq, Bool.and_eq_true] at h ⊢
  refine h.imp_right fun ⟨le, ne⟩ => ⟨le, UInt8.lt_iff_toNat_lt.mpr ?_⟩
  have : b.toNat ≠ 0x7F := fun same => ne (UInt8.toNat_inj.mp same)
  show b.toNat < 0x7F
  omega

/-- What is read from a value is ASCII. -/
theorem isAscii_of_text? (reads : value.text? = some text) : Text.IsAscii text := by
  unfold text? at reads
  split at reads
  · rename_i all
    cases reads
    intro c mem
    rw [String.toList_ofList] at mem
    obtain ⟨b, mem', rfl⟩ := List.mem_map.mp mem
    have lt : b.toNat < 0x80 := lt_of_isTextByte (List.all_eq_true.mp all b mem')
    have valid : b.toNat.isValidChar := .inl (by omega)
    rw [Char.ofNat, dif_pos valid]
    exact lt
  · cases reads

/-- A text of ASCII is read from its bytes. -/
theorem text?_utf8Encode (ascii : Text.IsAscii text)
    (carried : isWellFormed (Text.utf8Encode text) = true) :
    text? (Text.utf8Encode text) = some text := by
  rw [Text.utf8Encode_of_isAscii ascii] at carried ⊢
  have byte : ∀ c ∈ text.toList, (UInt8.ofNat c.toNat).toNat = c.toNat := by
    intro c mem
    have lt := ascii c mem
    rw [UInt8.toNat_ofNat']
    omega
  have readable : (text.toList.map fun c => UInt8.ofNat c.toNat).all isTextByte = true := by
    rw [List.all_eq_true]
    intro b mem
    obtain ⟨c, mem', rfl⟩ := List.mem_map.mp mem
    refine isTextByte_of_lt (List.all_eq_true.mp carried _ mem) ?_
    rw [byte c mem']
    exact ascii c mem'
  have back : (text.toList.map fun c => UInt8.ofNat c.toNat).map (fun b => Char.ofNat b.toNat) =
      text.toList := by
    rw [List.map_map]
    refine (List.map_congr_left fun c mem => ?_).trans (List.map_id _)
    show Char.ofNat (UInt8.ofNat c.toNat).toNat = c
    rw [byte c mem, Char.ofNat_toNat]
  rw [text?, if_pos readable, back, String.ofList_toList]

end HeaderValue

/-! ## Requests that present a key -/

namespace Request

variable {r : Request} {key : String}

/-- The value of an authorization that presents a key. -/
def bearer (key : String) : HeaderValue := Text.utf8Encode ("Bearer " ++ key)

/-- A key of ASCII is presented by its own authorization. -/
theorem not_lacks_of_isAscii (ascii : Text.IsAscii key)
    (carried : HeaderValue.isWellFormed (Text.utf8Encode key) = true)
    (presents : r.authorizations.head? = some (bearer key)) : ¬ r.Lacks key := by
  have word : Text.IsAscii "Bearer " ∧
      HeaderValue.isWellFormed (Text.utf8Encode "Bearer ") = true := by decide
  have whole : HeaderValue.isWellFormed (bearer key) = true := by
    rw [bearer, Text.utf8Encode_append, HeaderValue.isWellFormed, List.all_append, Bool.and_eq_true]
    exact ⟨word.2, carried⟩
  have reads : (bearer key).text? = some ("Bearer " ++ key) :=
    HeaderValue.text?_utf8Encode (Text.isAscii_append.mpr ⟨word.1, ascii⟩) whole
  intro lacks
  cases lacks with
  | missing none => simp [presents] at none
  | unreadable value first no_text =>
    cases presents.symm.trans first
    simp [reads] at no_text
  | another value first text reads' ne =>
    cases presents.symm.trans first
    cases reads.symm.trans reads'
    exact ne rfl

/-- A key beyond ASCII is presented by no request. -/
theorem lacks_of_not_isAscii (beyond : ¬ Text.IsAscii key) (r : Request) : r.Lacks key := by
  cases first : r.authorizations.head? with
  | none => exact .missing first
  | some value =>
    cases reads : value.text? with
    | none => exact .unreadable value first reads
    | some text =>
      refine .another value first text reads ?_
      rintro rfl
      exact beyond (Text.isAscii_append.mp (HeaderValue.isAscii_of_text? reads)).2

end Request

/-! ## Which keys open the interface -/

namespace Configuration

/-- The configuration with another key for the admin interface. -/
def withKey (c : Configuration) (key : Option String) : Configuration :=
  { c with admin := { c.admin with apiKey := key } }

/-- No rule is about the key. -/
theorem problems_withKey (c : Configuration) (key : Option String) :
    (c.withKey key).problems = c.problems := rfl

end Configuration

namespace Admin

variable {s : AdminState} {r : Request} {route : Route} {key : String}

/-- No route turns away whom it serves. -/
theorem status_served_ne (s : AdminState) (draw : Nat → Float) (r : Request) (route : Route)
    (not_health : route ≠ .health) : (served s draw r route).response.status ≠ 401 := by
  have acted (segment : String) (action : String → Bool × Registry × List Notice)
      (entry : String → Bool → LogEntry) :
      (act segment s.registry action entry).response.status ≠ 401 := by
    unfold act
    split
    · show 400 ≠ 401
      decide
    · unfold actionResponse
      dsimp only
      split <;> decide
  have unchanged : (served s draw r route).response.status =
      (serve s draw route).response.status := by
    unfold served
    split <;> rfl
  rw [unchanged]
  cases route with
  | health => exact absurd rfl not_health
  | breakers =>
    show 200 ≠ 401
    decide
  | reset segment => exact acted segment _ _
  | forceOpen segment => exact acted segment _ _

/-- **A key opens the interface exactly if it is ASCII.** Let an accepted configuration have a key
that is not empty and can be carried by a header. It would be accepted with any other key as well.
A request to a protected route whose only authorization presents the key is let through exactly if
the key is ASCII. If it is not, every request to such a route is turned away. -/
theorem key_opens_iff_isAscii {c : Configuration} (accepted : c.Accepted)
    (set : c.admin.apiKey = some key) (not_empty : key ≠ "")
    (carried : HeaderValue.isWellFormed (Text.utf8Encode key) = true)
    (configured : s.key = effectiveKey c.admin.apiKey) (draw : Nat → Float) :
    (∀ other, (c.withKey other).problems = []) ∧
      (∀ r route, r.Uses route → route ≠ .health → r.authorizations = [Request.bearer key] →
        (answer s draw r = served s draw r route ↔ Text.IsAscii key)) ∧
      (¬ Text.IsAscii key → ∀ r route, r.Uses route → route ≠ .health →
        (answer s draw r).response = { status := 401 }) := by
  have counts : s.key = some key := by
    rw [configured, set, effectiveKey, Option.filter_some, if_pos (by simpa using not_empty)]
  have turned_away (beyond : ¬ Text.IsAscii key) (r : Request) (route : Route)
      (uses : r.Uses route) (not_health : route ≠ .health) :
      (answer s draw r).response = { status := 401 } := by
    rw [answer_of_lacks counts (Request.lacks_of_not_isAscii beyond r) uses not_health draw]
  refine ⟨?_, ?_, turned_away⟩
  · intro other
    rw [Configuration.problems_withKey]
    exact accepted.problems_eq_nil
  · intro r route uses not_health presents
    constructor
    · intro let_through
      by_contra beyond
      have status := status_served_ne s draw r route not_health
      rw [← let_through, turned_away beyond r route uses not_health] at status
      exact status rfl
    · intro ascii
      have first : r.authorizations.head? = some (Request.bearer key) := by rw [presents]; rfl
      have welcome := Request.not_lacks_of_isAscii ascii carried first
      exact answer_of_not_lacks counts uses (.inr welcome) draw

/-- The statuses of the breakers are told to whoever presents a key of ASCII. -/
theorem key_opens_iff_isAscii_of_plain_key :
    let c : Configuration := { admin := { apiKey := some "s3cret" } }
    let s : AdminState :=
      { key := effectiveKey c.admin.apiKey, registry := Components.registryOf c
        monitor := { settings := c.health }, clock := { wallStart := 0 } }
    let r : Request := ⟨"GET", "/admin/circuit-breakers", [Request.bearer "s3cret"]⟩
    c.problems = [] ∧ r.Uses .breakers ∧ Text.IsAscii "s3cret" ∧
      answer s (fun _ => 0) r = served s (fun _ => 0) r .breakers := by
  intro c s r
  have sound : c.problems = [] := by decide +kernel
  have path : Route.ofPath? "/admin/circuit-breakers" = some .breakers := by rfl
  have uses : r.Uses .breakers := ⟨path, rfl⟩
  have ascii : Text.IsAscii "s3cret" := by decide
  have carried : HeaderValue.isWellFormed (Text.utf8Encode "s3cret") = true := by decide
  have opens := (key_opens_iff_isAscii (s := s) (.checked sound) rfl (by decide) carried rfl
    (fun _ => 0)).2.1 r .breakers uses nofun rfl
  exact ⟨sound, uses, ascii, opens.mpr ascii⟩

/-- A configuration with a key beyond ASCII is accepted, and the request that presents this key is
turned away. -/
theorem turned_away_of_accented_key :
    let c : Configuration := { admin := { apiKey := some "é" } }
    let s : AdminState :=
      { key := effectiveKey c.admin.apiKey, registry := Components.registryOf c
        monitor := { settings := c.health }, clock := { wallStart := 0 } }
    let r : Request := ⟨"GET", "/admin/circuit-breakers", [Request.bearer "é"]⟩
    c.problems = [] ∧ HeaderValue.isWellFormed (Text.utf8Encode "é") = true ∧
      r.Uses .breakers ∧ answer s (fun _ => 0) r ≠ served s (fun _ => 0) r .breakers := by
  intro c s r
  have sound : c.problems = [] := by decide +kernel
  have path : Route.ofPath? "/admin/circuit-breakers" = some .breakers := by rfl
  have uses : r.Uses .breakers := ⟨path, rfl⟩
  have beyond : ¬ Text.IsAscii "é" := by decide
  refine ⟨sound, by decide, uses, ?_⟩
  intro let_through
  have lacks : r.Lacks "é" := Request.lacks_of_not_isAscii beyond r
  rw [answer_of_lacks rfl lacks uses nofun] at let_through
  cases congrArg (fun a => a.response.status) let_through

end Admin

end Safeguard
