/-
What becomes of a text that a variable of the environment sets.

The text is taken for a truth value or a number if it looks like one, and such a value is printed again where a text is
wanted. So it may change on the way.
- `toText?_ofVariable`: the text that is printed is the one that was set if and only if that is `Verbatim`.
- `verbatim_of_ordinary`: a text with a character that stands in no number is, but for a few words.
- `text_of_variable`: this is what every text setting of a node comes to, whatever else is set.
- `password_altered`: a password that is not kept.
-/
import ChainFeed.Proofs.Node.Stacks
import ChainFeed.Proofs.Number.Whole

namespace ChainFeed

namespace Setting

/-! ## Texts that are kept -/

/-- a text that is printed as it was set: a truth value in small letters, a plain whole number, a double as it is printed,
or anything that is none of these -/
def Verbatim (v : String) : Prop :=
  match ofVariable v with
  | .bool _ => v = "true" ∨ v = "false"
  | .int _ => IsPlainInt v.toList
  | .float x => v = floatText x
  | _ => True

/-- a text with a character that stands in no number, which is no word for a truth value or a double either -/
structure IsOrdinary (v : String) : Prop where
  char : ∃ c ∈ v.toList, isNumberChar c = false
  noTruth : v.map Char.toLower ∉ ["true", "false"]
  noDouble : String.ofList ((readSign v.toList).2.map Char.toLower) ∉ floatWords

theorem readInt?_of_readInt64? {cs : List Char} {i : Int64} (hr : readInt64? 10 cs = some i) :
    readInt? 10 cs = some i.toInt := by
  obtain ⟨n, hn, rfl⟩ := Option.map_eq_some_iff.1 hr
  obtain ⟨hn, hfits⟩ := Option.filter_eq_some_iff.1 hn
  simp only [fitsInt64, Bool.and_eq_true, decide_eq_true_eq] at hfits
  have hlow : -2 ^ 63 ≤ n := hfits.1
  have hhigh : n < 2 ^ 63 := by
    have hle : n ≤ 2 ^ 63 - 1 := hfits.2
    omega
  rw [hn, Int64.toInt_ofInt_of_le hlow hhigh]

/-- **The text that is printed is the one that was set** if and only if that is verbatim. -/
theorem toText?_ofVariable (v : String) :
    ∃ t, (ofVariable v).toText? = some t ∧ (t = v ↔ Verbatim v) := by
  unfold Verbatim ofVariable
  dsimp only
  by_cases htrue : v.map Char.toLower = "true"
  · rw [if_pos htrue]
    refine ⟨"true", rfl, fun h => Or.inl h.symm, ?_⟩
    rintro (rfl | rfl)
    · rfl
    · exact absurd htrue (by decide +kernel)
  rw [if_neg htrue]
  by_cases hfalse : v.map Char.toLower = "false"
  · rw [if_pos hfalse]
    refine ⟨"false", rfl, fun h => Or.inr h.symm, ?_⟩
    rintro (rfl | rfl)
    · exact absurd hfalse (by decide +kernel)
    · rfl
  rw [if_neg hfalse]
  rcases hi : readInt64? 10 v.toList with _ | i
  · rcases hx : readFloat? v.toList with _ | x
    · exact ⟨v, rfl, by simp⟩
    · exact ⟨floatText x, rfl, eq_comm⟩
  · refine ⟨_, rfl, ?_⟩
    rw [← intText_of_readInt? (readInt?_of_readInt64? hi)]
    constructor
    · rintro rfl
      rw [String.toList_ofList]
    · intro hall
      rw [hall, String.ofList_toList]

/-- **An ordinary text is kept as it is.** -/
theorem verbatim_of_ordinary {v : String} (hv : IsOrdinary v) : Verbatim v := by
  obtain ⟨c, hc, hchar⟩ := hv.char
  have htruth := hv.noTruth
  simp only [List.mem_cons, List.not_mem_nil, or_false, not_or] at htruth
  have hint : readInt64? 10 v.toList = none := by
    by_contra hne
    obtain ⟨i, hi⟩ := Option.ne_none_iff_exists'.1 hne
    have hall := isNumberChar_of_readInt? (readInt?_of_readInt64? hi) c hc
    exact absurd (hall.symm.trans hchar) (by decide)
  have hfloat : readFloat? v.toList = none := by
    by_contra hne
    obtain ⟨x, hx⟩ := Option.ne_none_iff_exists'.1 hne
    have hall := isNumberChar_of_readFloat? hx hv.noDouble c hc
    exact absurd (hall.symm.trans hchar) (by decide)
  simp only [Verbatim, ofVariable, htruth.1, htruth.2, if_false, hint, hfloat]

theorem toOptionalText?_of_toText? {s : Setting} {t : String} (hs : s.toText? = some t) :
    s.toOptionalText? = some (some t) := by
  cases s with
  | nothing => cases hs
  | _ => exact congrArg (Option.map some) hs

end Setting

open Setting

namespace Settings

/-! ## Text settings -/

/-- the text settings of a node: their paths, and where they are kept -/
def texts : List (List String × (Settings → Option String)) :=
  [(["log_level"], fun s => some s.logLevel), (["rpc", "url"], fun s => some s.rpc.url),
   (["rpc", "user"], fun s => s.rpc.user), (["rpc", "password"], fun s => s.rpc.password),
   (["chain", "name"], fun s => some s.chain.name)]

/-- a text setting at which a single value is put is the text of the value -/
theorem text_put {path : List String} {get : Settings → Option String} (ht : (path, get) ∈ texts)
    {entries : List (String × Setting)} (hvalid : (toGroup? members {} (table entries)).isSome = true) {v : Setting}
    (hv : v.isTable = false) {t : String} (hread : v.toText? = some t) :
    ∃ s, toGroup? members {} (put v (steps path) (table entries)) = some s ∧ get s = some t := by
  have hoptional := toOptionalText?_of_toText? hread
  have hrpc : Slot.group "rpc" RpcSettings.slots {} rpc (fun v s => { s with rpc := v }) ∈ grouped := .head _
  have hchain : Slot.group "chain" ChainParams.slots {} chain (fun v s => { s with chain := v }) ∈ grouped :=
    .tail _ (.tail _ (.head _))
  simp only [texts, List.mem_cons, List.not_mem_nil, or_false, Prod.mk.injEq] at ht
  rcases ht with ⟨rfl, rfl⟩ | ⟨rfl, rfl⟩ | ⟨rfl, rfl⟩ | ⟨rfl, rfl⟩ | ⟨rfl, rfl⟩
  · obtain ⟨s, hs, hget⟩ := toSettings?_put_single hvalid (.tail _ (.head _)) hv hread
    exact ⟨s, hs, congrArg some hget⟩
  · obtain ⟨s, hs, hget⟩ := toSettings?_put_group hrpc RpcSettings.lawful hvalid (.head _) hv hread
    exact ⟨s, hs, congrArg some hget⟩
  · exact toSettings?_put_group hrpc RpcSettings.lawful hvalid (.tail _ (.head _)) hv hoptional
  · exact toSettings?_put_group hrpc RpcSettings.lawful hvalid (.tail _ (.tail _ (.head _))) hv hoptional
  · obtain ⟨s, hs, hget⟩ := toSettings?_put_group hchain ChainParams.lawful hvalid (.head _) hv hread
    exact ⟨s, hs, congrArg some hget⟩

/-- **A variable that sets a text setting.** If the file and the variables before it are valid, settings are loaded, and
the setting is the text that is printed of the variable. That is the text that was set if and only if it is verbatim;
every ordinary text is. -/
theorem text_of_variable {file : Option String} {environment : List (String × String)} {s₀ : Settings}
    (hvalid : load file environment = .ok s₀) {path : List String} {get : Settings → Option String}
    (ht : (path, get) ∈ texts) {name : String} (hn : variablePath? name = some (steps path)) (v : String) :
    ∃ s t, load file (environment ++ [(name, v)]) = .ok s ∧ get s = some t ∧ (ofVariable v).toText? = some t ∧
      (t = v ↔ Verbatim v) ∧ (IsOrdinary v → t = v) := by
  obtain ⟨values, hvalues, hs₀⟩ := load_eq_ok.1 hvalid
  obtain ⟨entries, hentries⟩ := stack_eq_table (values ++ environmentLayer environment)
  obtain ⟨t, hread, hsame⟩ := toText?_ofVariable v
  have hbefore : (toGroup? members {} (table entries)).isSome = true := by
    rw [← hentries, hs₀]
    rfl
  obtain ⟨s, hs, hget⟩ := text_put ht hbefore (isTable_ofVariable v) hread
  refine ⟨s, t, load_eq_ok.2 ⟨values, hvalues, ?_⟩, hget, hread, hsame, fun hv => ?_⟩
  · rw [stack_variable hn, hentries]
    exact hs
  · exact hsame.2 (verbatim_of_ordinary hv)

/-- a password with letters and digits is kept -/
theorem text_of_variable_password :
    load none [] = .ok {} ∧ ∃ s, load none [("BLOCKPULSE__RPC__PASSWORD", "pa55-word")] = .ok s ∧
      s.rpc.password = some "pa55-word" := by
  have hempty : load none [] = .ok {} := rfl
  have hin : (["rpc", "password"], fun s : Settings => s.rpc.password) ∈ texts := by simp [texts]
  have hname : variablePath? "BLOCKPULSE__RPC__PASSWORD" = some (steps ["rpc", "password"]) := by decide +kernel
  have hordinary : IsOrdinary "pa55-word" :=
    ⟨⟨'p', by decide, by decide⟩, by decide +kernel, by decide +kernel⟩
  obtain ⟨s, t, hs, hpassword, -, -, hsame⟩ := text_of_variable hempty hin hname "pa55-word"
  refine ⟨hempty, s, hs, ?_⟩
  rw [hpassword, hsame hordinary]

theorem ofVariable_zeros : ofVariable "007" = .int 7 := by
  have htrue : ("007" : String).map Char.toLower ≠ "true" := by decide +kernel
  have hfalse : ("007" : String).map Char.toLower ≠ "false" := by decide +kernel
  have hint : readInt64? 10 ("007" : String).toList = some 7 := by decide +kernel
  simp only [ofVariable, if_neg htrue, if_neg hfalse, hint]

/-- **A password that is not kept.** One of digits with zeros before them loses the zeros. -/
theorem password_altered :
    ∃ s, load none [("BLOCKPULSE__RPC__PASSWORD", "007")] = .ok s ∧ s.rpc.password = some "7" ∧
      s.rpc.password ≠ some "007" := by
  have hpath : variablePath? "BLOCKPULSE__RPC__PASSWORD" = some (steps ["rpc", "password"]) := by decide +kernel
  have hstack := stack_variable hpath [] [] "007"
  rw [ofVariable_zeros] at hstack
  refine ⟨{ rpc := { password := some "7" } }, load_eq_ok.2 ⟨[], rfl, ?_⟩, rfl, by decide⟩
  simp only [List.nil_append] at hstack ⊢
  rw [hstack]
  rfl

end Settings

end ChainFeed
