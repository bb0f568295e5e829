import HttpInterface.Proofs.Charset.ReadAsUtf8
import HttpInterface.Proofs.Compile.Method

/-!
# `HttpInterface.Proofs.Compile.ShownBody`: the body that a description shows

A declared body without placeholders is kept as its bytes in the charset of the settings. The
charset is not kept, and a description reads the bytes as UTF-8, whatever they were written in.
`shown_iff_agrees` says which declared bodies are shown as they were declared: those on which the
charset agrees with UTF-8. The others are shown with replacements or as other characters, and
`cafe_in_latin1` is one of them.
-/

set_option autoImplicit false

namespace HttpInterface

/-- The body in a description is the text of the bytes, read as UTF-8. -/
theorem CompiledMethod.member?_body {m : CompiledMethod} {bytes : Bytes}
    (h : m.template.body = some bytes) :
    m.describe.member? "body" = some (.text (String.ofList (Charset.Utf8.decode bytes))) := by
  have hmember : m.describe.member? "body" = some (jsonText? m.bodyText?) := rfl
  rw [hmember, bodyText?, h]
  rfl

namespace Declaration

/-- A declared body without placeholders is kept as its bytes. -/
theorem body_of_compile {d : Declaration} {settings : Settings} {r : NameResolver}
    {m : CompiledMethod} {text : String} (hm : (d.compile settings r).result = .ok m)
    (hbody : d.body = some text) (hliteral : Placeholder.occursIn text = false) :
    ∃ bytes, Charset.encode settings.bodyCharset text.toList = .ok bytes ∧
      m.template.body = some bytes := by
  obtain ⟨draft, hdraft, -, -, rfl⟩ := compile_eq_ok.1 hm
  obtain ⟨line, -, -, hset⟩ := draft_eq_ok hdraft
  rcases setDeclaredBody_eq_ok hset with
    ⟨hnone, -⟩ | ⟨text', htext, ⟨hslots, -⟩ | ⟨-, bytes, hbytes, rfl⟩⟩
  · exact nomatch hnone.symm.trans hbody
  · obtain rfl := Option.some.inj (htext.symm.trans hbody)
    exact nomatch hslots.symm.trans hliteral
  · obtain rfl := Option.some.inj (htext.symm.trans hbody)
    exact ⟨bytes, hbytes, rfl⟩

/-- A description shows the bytes of a declared body as UTF-8. This is the declared body exactly if
the charset that it was written in agrees with UTF-8 on it. -/
theorem shown_iff_agrees (d : Declaration) (settings : Settings) (r : NameResolver)
    (m : CompiledMethod) (text : String) (hm : (d.compile settings r).result = .ok m)
    (hbody : d.body = some text) (hliteral : Placeholder.occursIn text = false) :
    ∃ c bytes, Charset.lookUp settings.bodyCharset = .ok c ∧
      c.encodeAs settings.bodyCharset text.toList = .ok bytes ∧
      m.describe.member? "body" = some (.text (String.ofList (Charset.Utf8.decode bytes))) ∧
      (m.describe.member? "body" = some (.text text) ↔ c.AgreesWithUtf8 text.toList) := by
  obtain ⟨bytes, hencode, hbytes⟩ := body_of_compile hm hbody hliteral
  obtain ⟨c, hcharset, hwritten⟩ := bind_eq_ok.1 hencode
  have hshown := CompiledMethod.member?_body hbytes
  refine ⟨c, bytes, hcharset, hwritten, hshown, ?_⟩
  rw [hshown, Option.some.injEq, Json.text.injEq, ← Charset.decode_eq_iff_of_encodeAs hwritten]
  constructor
  · intro h
    rw [← h, String.toList_ofList]
  · intro h
    rw [h, String.ofList_toList]

/-- An order with a body. -/
def cafeOrder (body : String) : Declaration where
  declaringType := "Cafe"
  methodName := "order"
  requestLine := some "POST /orders"
  body := some body

/-- The method of an order, by the bytes of its body. -/
def cafeMethod (bytes : Bytes) : CompiledMethod where
  configKey := "Cafe#order()"
  template :=
    { method := "POST"
      url := "/orders"
      headers := ⟨[(Header.contentLength, [lengthText bytes])], by simp⟩
      body := some bytes }

theorem shown_tea :
    ((cafeOrder "tea").compile { bodyCharset := "latin-1" } (.standard true)).result =
        .ok (cafeMethod [0x74, 0x65, 0x61]) ∧
      (cafeMethod [0x74, 0x65, 0x61]).describe.member? "body" = some (.text "tea") := by
  have hm : ((cafeOrder "tea").compile { bodyCharset := "latin-1" } (.standard true)).result =
      .ok (cafeMethod [0x74, 0x65, 0x61]) := rfl
  obtain ⟨c, bytes, hcharset, -, -, hiff⟩ :=
    shown_iff_agrees (cafeOrder "tea") { bodyCharset := "latin-1" } _ _ "tea" hm rfl (by decide)
  obtain rfl : Charset.singleByte .latin1 = c := Except.ok.inj hcharset
  exact ⟨hm, hiff.2 (by decide)⟩

/-- In Latin-1 the accented letter is one byte, and UTF-8 has no character of this byte alone. -/
theorem cafe_in_latin1 :
    ((cafeOrder "café").compile { bodyCharset := "latin-1" } (.standard true)).result =
        .ok (cafeMethod [0x63, 0x61, 0x66, 0xE9]) ∧
      Placeholder.occursIn "café" = false ∧
      (cafeMethod [0x63, 0x61, 0x66, 0xE9]).describe.member? "body" =
        some (.text "caf\uFFFD") ∧
      (cafeMethod [0x63, 0x61, 0x66, 0xE9]).describe.member? "body" ≠ some (.text "café") := by
  have hshown : (cafeMethod [0x63, 0x61, 0x66, 0xE9]).describe.member? "body" =
      some (.text "caf\uFFFD") := by
    rw [CompiledMethod.member?_body rfl]
    rfl
  refine ⟨rfl, by decide, hshown, fun h => ?_⟩
  rw [hshown] at h
  exact absurd (Json.text.inj (Option.some.inj h)) (by decide)

end Declaration

end HttpInterface
