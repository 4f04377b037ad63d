import SqlCompose.Proofs.Encoding
import SqlCompose.Proofs.StringLiterals

/-!
# SqlCompose.Proofs.StringValues -- text is written as closed strings

Text in memory or behind a stream is written between quotes in the way of the
product: MySQL has backslashes doubled as well as quotes, and SQL Server a mark
before text that goes beyond ASCII. The product reads what was written as one
string that ends at its last character, and the content of which is the text. The
items of a list are written side by side, each in the same way.
-/

namespace SqlCompose

/-! ## Reading a string -/

namespace StringLiteral

open Text

/-- Where backslashes escape, a text whose backslashes and quotes were doubled is read as it was. -/
theorem readBody_escaped (s : List Char) {rest : List Char} (h : rest.head? ≠ some '\'') :
    readBody true (Quoted.doubled '\'' (Quoted.doubled '\\' s) ++ '\'' :: rest) =
      some (s, rest) := by
  induction s with
  | nil => exact readBody_close true h
  | cons c s ih =>
    by_cases hslash : c = '\\'
    · -- the first backslash escapes the second one, so what follows is read from its start
      have hquote : ('\\' : Char) ≠ '\'' := by decide
      simp only [Quoted.doubled, hslash, if_true, if_neg hquote, List.cons_append]
      rw [readBody_escape, ih]
      rfl
    by_cases hc : c = '\''
    · simp only [Quoted.doubled, if_neg hslash]
      simp only [hc, if_true, List.cons_append, readBody_pair, ih]
      rfl
    · simp only [Quoted.doubled, if_neg hslash, if_neg hc, List.cons_append]
      rw [readBody_plain true hc fun hescape => hslash hescape.2, ih]
      rfl

theorem read?_quote {escapes : Bool} {s content : String} {rest : List Char}
    (h : readBody escapes (Quoted.doubled '\'' s.toList ++ '\'' :: rest) =
      some (content.toList, rest)) :
    read? escapes ((Quoted.quote s).toList ++ rest) = some (content.toList, rest) := by
  rw [LiteralText.toList_quote, List.cons_append, List.append_assoc]
  show (if '\'' = '\'' then readBody escapes _ else none) = _
  rw [if_pos rfl]
  exact h

end StringLiteral

namespace DialectKind

/-- The products that let a mark for national characters stand before a string. -/
def nationalMark : DialectKind → Bool
  | .sqlServer => true
  | _ => false

/-- The content of the string at the front of a text, and what stands after it, as the product
reads them. -/
def readString? (k : DialectKind) (cs : List Char) : Option (List Char × List Char) :=
  match k.nationalMark, cs with
  | true, 'N' :: rest => StringLiteral.read? k.backslashEscapes rest
  | _, cs => StringLiteral.read? k.backslashEscapes cs

/-- A text is one string of the product from its first character to its last, with this content. -/
def IsStringOf (k : DialectKind) (text content : String) : Prop :=
  k.readString? text.toList = some (content.toList, [])

/-- Only a national mark keeps a text from being read as a plain string. -/
theorem readString?_plain (k : DialectKind) {c : Char} (hc : c ≠ 'N') (cs : List Char) :
    k.readString? (c :: cs) = StringLiteral.read? k.backslashEscapes (c :: cs) := by
  unfold readString?
  split
  · rename_i h
    exact absurd (List.cons.inj h).1 hc
  · rfl

theorem readString?_quote (k : DialectKind) (s : String) (cs : List Char) :
    k.readString? ((Text.Quoted.quote s).toList ++ cs) =
      StringLiteral.read? k.backslashEscapes ((Text.Quoted.quote s).toList ++ cs) := by
  rw [LiteralText.toList_quote, List.cons_append]
  exact k.readString?_plain (by decide) _

theorem readString?_national (cs : List Char) :
    readString? .sqlServer ('N' :: cs) = StringLiteral.read? false cs := rfl

/-- What a product writes for a text is read as the text, whatever stands after it but a quote. -/
theorem readString?_written (k : DialectKind) (s : String) {rest : List Char}
    (h : rest.head? ≠ some '\'') :
    k.readString? ((k.vendor.quote s).toList ++ rest) = some (s.toList, rest) := by
  have hplain : StringLiteral.read? false ((Text.Quoted.quote s).toList ++ rest) =
      some (s.toList, rest) := StringLiteral.read?_quote (StringLiteral.readBody_doubled s.toList h)
  cases k with
  | mySql =>
    -- only MySQL reads a backslash as an escape, and there it is written twice
    have hescaped : StringLiteral.readBody true
        (Text.Quoted.doubled '\'' (Text.Quoted.doubleBackslashes s).toList ++ '\'' :: rest) =
          some (s.toList, rest) := by
      rw [Text.Quoted.doubleBackslashes, String.toList_ofList]
      exact StringLiteral.readBody_escaped s.toList h
    show readString? .mySql ((Text.Quoted.quote (Text.Quoted.doubleBackslashes s)).toList ++ rest) = _
    rw [readString?_quote]
    exact StringLiteral.read?_quote hescaped
  | sqlServer =>
    show readString? .sqlServer ((SqlLiteral.nationalString s).toList ++ rest) = _
    unfold SqlLiteral.nationalString
    split
    · rw [readString?_quote]
      exact hplain
    · have hmark : "N".toList = ['N'] := rfl
      rw [String.toList_append, hmark, List.append_assoc, List.cons_append, List.nil_append,
        readString?_national]
      exact hplain
  | _ => exact (readString?_quote _ s rest).trans hplain

theorem isStringOf_quote (k : DialectKind) (s : String) : k.IsStringOf (k.vendor.quote s) s := by
  have hempty : ([] : List Char).head? ≠ some '\'' := by simp
  have h := k.readString?_written s hempty
  rwa [List.append_nil] at h

end DialectKind

/-! ## Values that hold text -/

/-- A value gives a text. The bytes behind a stream have to be text, and are read only once. -/
inductive Value.Gives : StreamStore → Value → String → StreamStore → Prop
  | string (store : StreamStore) (s : String) : Gives store (.string s) s store
  | clob (store : StreamStore) (s : String) : Gives store (.clob s) s store
  | charStream {store : StreamStore} {handle : StreamHandle} {bytes : List UInt8} {s : String} :
      store.source handle = .content bytes → Text.Utf8.decode bytes = .ok s →
        Gives store (.charStream handle) s ⟨store.sources.set handle.index .consumed⟩

/-- Several values give their texts one after another. -/
inductive Value.AllGive : StreamStore → List Value → List String → StreamStore → Prop
  | nil (store : StreamStore) : AllGive store [] [] store
  | cons {store next after : StreamStore} {v : Value} {rest : List Value} {s : String}
      {others : List String} :
      v.Gives store s next → AllGive next rest others after →
        AllGive store (v :: rest) (s :: others) after

namespace Codec

/-- What follows a step that succeeded goes on from the store that it left. -/
theorem run_bind {α β : Type} {x : Streaming α} {f : α → Streaming β} {store after : StreamStore}
    {a : α} (h : x store = (.ok a, after)) : (x >>= f) store = f a after := by
  show ExceptT.bindCont f (x store : Except SqlError α × StreamStore).1
    (x store : Except SqlError α × StreamStore).2 = _
  rw [h]
  rfl

theorem readText_of_content {store : StreamStore} {handle : StreamHandle} {bytes : List UInt8}
    {s : String} (hsource : store.source handle = .content bytes)
    (hdecode : Text.Utf8.decode bytes = .ok s) :
    Streaming.readText handle store =
      (.ok s, ⟨store.sources.set handle.index .consumed⟩) := by
  have hread : store.read handle = (.ok bytes, ⟨store.sources.set handle.index .consumed⟩) := by
    rw [StreamStore.read, hsource]
  rw [Streaming.readText_eq, hread]
  show (Streaming.textOf bytes, _) = _
  rw [Streaming.textOf, hdecode]

variable (d : Dialect)

theorem literal_of_gives {v : Value} {s : String} {store after : StreamStore}
    (h : v.Gives store s after) : literal d none v store = (.ok (d.vendor.quote s), after) := by
  cases h with
  | string => rfl
  | clob => rfl
  | charStream hsource hdecode => exact run_bind (readText_of_content hsource hdecode)

theorem literals_of_allGive {items : List Value} {contents : List String}
    {store after : StreamStore} (h : Value.AllGive store items contents after) :
    literals d none items store = (.ok (contents.map d.vendor.quote), after) := by
  induction h with
  | nil => rfl
  | cons hv _ ih =>
    unfold literals
    rw [run_bind (literal_of_gives d hv), run_bind ih]
    rfl

/-- Every text is written as one string of the product, with the text for its content, from a
string, a large text or a stream that can be read. The strings of a list of such values are written
in order with commas between them. -/
theorem strings_closed (c : Codec) :
    (∀ s, c.dialect.kind.IsStringOf (c.dialect.vendor.quote s) s) ∧
    (∀ v s store after, v.Gives store s after →
      c.serialize v none store = (.ok (c.dialect.vendor.quote s), after)) ∧
    ∀ items contents store after, Value.AllGive store items contents after →
      c.serialize (.list items) none store =
        (.ok (", ".intercalate (contents.map c.dialect.vendor.quote)), after) := by
  refine ⟨c.dialect.kind.isStringOf_quote, ?_, ?_⟩
  · intro v s store after h
    exact literal_of_gives c.dialect h
  · intro items contents store after h
    show (literals c.dialect none items >>= fun texts => pure (", ".intercalate texts)) store = _
    rw [run_bind (literals_of_allGive c.dialect h)]
    rfl

/-- A backslash before a quote, and a stream after it, under MySQL. -/
theorem strings_closed_of_backslash :
    let codec : Codec := { dialect := { kind := .mySql } }
    codec.serialize (.list [.string "\\'", .charStream ⟨0⟩]) none ⟨[.content [195, 169]]⟩ =
      (.ok "'\\\\''', 'é'", ⟨[.consumed]⟩) := by
  have hstream : Value.Gives ⟨[.content [195, 169]]⟩ (.charStream ⟨0⟩) "é" ⟨[.consumed]⟩ :=
    .charStream (show StreamStore.source _ _ = .content [195, 169] from rfl) rfl
  have hitems : Value.AllGive ⟨[.content [195, 169]]⟩ [.string "\\'", .charStream ⟨0⟩]
      ["\\'", "é"] ⟨[.consumed]⟩ := .cons (.string _ _) (.cons hstream (.nil _))
  exact (strings_closed { dialect := { kind := .mySql } }).2.2 _ _ _ _ hitems

end Codec

end SqlCompose
