import DataParallel.Proofs.Json.Number
import DataParallel.Proofs.Json.Text

/-!
# JSON keeps data

The JSON form of data can be read again, at every level of nesting and whatever follows it, and
gives the same data back: the same numbers bit for bit, the same texts, the same items and the same
entries in their order.  Reading never runs out of fuel, since each step of it takes at least one
character.
-/

namespace DataParallel.Json

open Number

/-! ## Data -/

/-- Data as JSON has it: whole numbers are not too long to be read, floats are finite, and the keys
of a record are texts, each of them once. -/
inductive Data : Value → Prop where
  | null : Data .null
  | bool (b : Bool) : Data (.bool b)
  | int (n : Int) (hn : (natDigits n.natAbs).length ≤ Text.maxDigits) : Data (.int n)
  | float (x : Float) (hx : x.isFinite = true) : Data (.float x)
  | text (s : String) : Data (.text s)
  | list (vs : List Value) (hvs : ∀ v ∈ vs, Data v) : Data (.list vs)
  | record (es : List (Value × Value)) (hkeys : ∀ e ∈ es, ∃ s, e.1 = .text s)
      (hnodup : (es.map Prod.fst).Nodup) (hes : ∀ e ∈ es, Data e.2) : Data (.record es)

theorem allExpressible_of_forall {vs : List Value} (h : ∀ v ∈ vs, expressible v = true) :
    allExpressible vs = true := by
  induction vs with
  | nil => rfl
  | cons v vs ih =>
    obtain ⟨hv, hvs⟩ := List.forall_mem_cons.mp h
    rw [allExpressible, hv, ih hvs]
    rfl

theorem entriesExpressible_of_forall {es : List (Value × Value)}
    (hkeys : ∀ e ∈ es, ∃ s, e.1 = .text s) (h : ∀ e ∈ es, expressible e.2 = true) :
    entriesExpressible es = true := by
  induction es with
  | nil => rfl
  | cons e es ih =>
    obtain ⟨⟨s, hs⟩, hrest⟩ := List.forall_mem_cons.mp hkeys
    obtain ⟨he, hes⟩ := List.forall_mem_cons.mp h
    obtain ⟨key, v⟩ := e
    obtain rfl : key = .text s := hs
    rw [entriesExpressible, he, ih hrest hes]
    rfl

/-- Data is written. -/
theorem Data.expressible {v : Value} (h : Data v) : expressible v = true := by
  induction h with
  | null | bool | int | float | text => rfl
  | list vs _ ih => exact allExpressible_of_forall ih
  | record es hkeys _ _ ih => exact entriesExpressible_of_forall hkeys ih

/-! ## Lines -/

theorem skipBlanks_of_head {cs : List Char} (h : ∃ c ∈ cs.head?, isBlank c = false)
    (rest : List Char) : skipBlanks (cs ++ rest) = cs ++ rest := by
  obtain ⟨c, hc, hblank⟩ := h
  obtain ⟨cs, rfl⟩ := List.head?_eq_some_iff.mp hc
  exact List.dropWhile_cons_of_neg (by simp [hblank])

theorem skipBlanks_newLine (level : Nat) (cs : List Char) :
    skipBlanks (newLine level ++ cs) = skipBlanks cs := by
  have hblank : ∀ c ∈ newLine level, isBlank c = true := by
    intro c hc
    rcases List.mem_cons.mp hc with rfl | hspace
    · rfl
    · rw [List.eq_of_mem_replicate hspace]
      rfl
  exact List.dropWhile_append_of_pos hblank

/-- The lines of a list or record begin with its first line. -/
theorem head_separate {line : List Char} {mark : Char}
    (h : ∃ c ∈ line.head?, isBlank c = false ∧ c ≠ mark) (level : Nat)
    (lines : List (List Char)) (rest : List Char) :
    ∃ c ∈ (skipBlanks (separate level (line :: lines) ++ rest)).head?, c ≠ mark := by
  obtain ⟨c, hc, hblank, hmark⟩ := h
  obtain ⟨line, rfl⟩ := List.head?_eq_some_iff.mp hc
  refine ⟨c, ?_, hmark⟩
  rcases lines with _ | ⟨line', lines⟩
  · rw [separate, List.append_assoc, skipBlanks_newLine, skipBlanks_of_head ⟨c, rfl, hblank⟩]
    rfl
  · rw [separate, List.append_assoc, List.append_assoc, skipBlanks_newLine,
      skipBlanks_of_head ⟨c, rfl, hblank⟩]
    · rfl
    · exact nofun

/-- A new line does not belong to a number. -/
theorem stops_newLine (level : Nat) (cs : List Char) : Stops (newLine level ++ cs) := by
  rintro c ⟨⟩
  decide

theorem stops_comma (cs : List Char) : Stops (',' :: cs) := by
  rintro c ⟨⟩
  decide

theorem length_newLine_pos (level : Nat) : 0 < (newLine level).length := Nat.succ_pos _

/-! ## Steps of reading -/

section Steps

variable {fuel : Nat} {cs after rest : List Char} {v : Value}

theorem readValue_plain (h : readPlain cs = some (v, rest)) :
    readValue (fuel + 1) cs = some (v, rest) := by
  obtain ⟨c, hc, -, hmark⟩ := head_of_readPlain h
  obtain ⟨cs, rfl⟩ := List.head?_eq_some_iff.mp hc
  simp only [List.mem_cons, List.not_mem_nil, or_false, not_or] at hmark
  obtain ⟨hquote, hlist, -, hrecord⟩ := hmark
  rw [readValue, h]
  · exact fun _ h => hquote (List.cons.inj h).1
  · exact fun _ h => hlist (List.cons.inj h).1
  · exact fun _ h => hrecord (List.cons.inj h).1

/-- A list is read from its items if these do not begin with its end. -/
theorem readValue_items {vs : List Value} (hhead : ∃ c ∈ (skipBlanks cs).head?, c ≠ ']')
    (hread : readItems fuel (skipBlanks cs) = some (vs, rest)) :
    readValue (fuel + 1) ('[' :: cs) = some (.list vs, rest) := by
  obtain ⟨c, hc, hne⟩ := hhead
  rw [readValue]
  split
  · next hend =>
    rw [hend] at hc
    exact absurd (Option.some.inj hc).symm hne
  · rw [hread]
    rfl

/-- A record is read from its entries if these do not begin with its end. -/
theorem readValue_entries {es : List (Value × Value)}
    (hhead : ∃ c ∈ (skipBlanks cs).head?, c ≠ '\x7d')
    (hread : readEntries fuel [] (skipBlanks cs) = some (es, rest)) :
    readValue (fuel + 1) ('\x7b' :: cs) = some (.record es, rest) := by
  obtain ⟨c, hc, hne⟩ := hhead
  rw [readValue]
  split
  · next hend =>
    rw [hend] at hc
    exact absurd (Option.some.inj hc).symm hne
  · rw [hread]
    rfl

theorem readItems_last (hread : readValue fuel cs = some (v, after))
    (hafter : skipBlanks after = ']' :: rest) :
    readItems (fuel + 1) cs = some ([v], rest) := by
  rw [readItems, hread]
  simp only [Option.bind_eq_bind, Option.bind_some, hafter]
  rfl

theorem readItems_more (hread : readValue fuel cs = some (v, after))
    (hafter : skipBlanks after = ',' :: rest) :
    readItems (fuel + 1) cs =
      (readItems fuel (skipBlanks rest)).map fun (vs, rest) => (v :: vs, rest) := by
  rw [readItems, hread]
  simp only [Option.bind_eq_bind, Option.bind_some, hafter]
  cases readItems fuel (skipBlanks rest) <;> rfl

end Steps

/-! ## Values that are read back -/

/-- A value that is read from what is written for it, at every level and before everything that
does not belong to a number, and that does not look like the end of a list. -/
structure ReadBack (v : Value) : Prop where
  starts : ∀ level, ∃ c ∈ (render level v).head?, isBlank c = false ∧ c ≠ ']'
  reads : ∀ level rest fuel, Stops rest → (render level v).length < fuel →
    readValue fuel (render level v ++ rest) = some (v, rest)

theorem ReadBack.skipBlanks {v : Value} (h : ReadBack v) (level : Nat) (rest : List Char) :
    skipBlanks (render level v ++ rest) = render level v ++ rest := by
  obtain ⟨c, hc, hblank, -⟩ := h.starts level
  exact skipBlanks_of_head ⟨c, hc, hblank⟩ rest

theorem ReadBack.reads_entry {v : Value} (h : ReadBack v) (level fuel : Nat) {rest : List Char}
    (hrest : Stops rest) (hfuel : (render level v).length < fuel) :
    readValue fuel (Json.skipBlanks (' ' :: (render level v ++ rest))) = some (v, rest) := by
  have hspace : Json.skipBlanks (' ' :: (render level v ++ rest)) =
      Json.skipBlanks (render level v ++ rest) := rfl
  rw [hspace, h.skipBlanks]
  exact h.reads level rest fuel hrest hfuel

/-- A word or a number is read back at every level. -/
theorem ReadBack.of_plain {v : Value} {cs : List Char} (hrender : ∀ level, render level v = cs)
    (hread : ∀ rest, Stops rest → readPlain (cs ++ rest) = some (v, rest)) : ReadBack v where
  starts := by
    intro level
    have hstops : Stops [] := nofun
    have halone := hread [] hstops
    rw [List.append_nil] at halone
    obtain ⟨c, hc, hblank, hmark⟩ := head_of_readPlain halone
    rw [hrender]
    exact ⟨c, hc, hblank, fun h => hmark (by simp [h])⟩
  reads := by
    intro level rest fuel hstops hfuel
    obtain ⟨fuel, rfl⟩ := Nat.exists_eq_succ_of_ne_zero (Nat.ne_zero_of_lt hfuel)
    rw [hrender]
    exact readValue_plain (hread rest hstops)

theorem readBack_null : ReadBack .null :=
  .of_plain (fun _ => rfl) fun _ _ => rfl

theorem readBack_bool (b : Bool) : ReadBack (.bool b) := by
  cases b with
  | false => exact .of_plain (fun _ => rfl) fun _ _ => rfl
  | true => exact .of_plain (fun _ => rfl) fun _ _ => rfl

theorem readBack_int {n : Int} (hn : (natDigits n.natAbs).length ≤ Text.maxDigits) :
    ReadBack (.int n) :=
  .of_plain (fun _ => rfl) fun _ => readPlain_int hn

theorem readBack_float {x : Float} (hx : x.isFinite = true) : ReadBack (.float x) :=
  .of_plain (fun _ => rfl) fun _ => readPlain_float hx

theorem quote_append (s : String) (rest : List Char) :
    quote s ++ rest = '"' :: (s.toList.flatMap escapeChar ++ '"' :: rest) := by
  rw [quote, List.cons_append, List.append_assoc, List.singleton_append]

theorem readBack_text (s : String) : ReadBack (.text s) where
  starts := fun _ => ⟨'"', rfl, rfl, by decide⟩
  reads := by
    intro level rest fuel _ hfuel
    obtain ⟨fuel, rfl⟩ := Nat.exists_eq_succ_of_ne_zero (Nat.ne_zero_of_lt hfuel)
    rw [render, quote_append, readValue, readText_quote]

/-! ## Lists -/

theorem readItems_renderItems {vs : List Value} (hne : vs ≠ []) (hvs : ∀ v ∈ vs, ReadBack v)
    (level outer : Nat) (rest : List Char) (fuel : Nat)
    (hfuel : (separate level (renderItems level vs)).length < fuel) :
    readItems fuel (skipBlanks (separate level (renderItems level vs) ++
      (newLine outer ++ ']' :: rest))) = some (vs, rest) := by
  induction vs generalizing fuel with
  | nil => exact absurd rfl hne
  | cons v vs ih =>
    obtain ⟨hv, hvs⟩ := List.forall_mem_cons.mp hvs
    obtain ⟨fuel, rfl⟩ := Nat.exists_eq_succ_of_ne_zero (Nat.ne_zero_of_lt hfuel)
    -- The new line in front of an item pays for the step that reads the item.
    have hline := length_newLine_pos level
    rcases vs with _ | ⟨w, vs⟩
    · have hlines : separate level (renderItems level [v]) = newLine level ++ render level v := rfl
      rw [hlines, List.length_append] at hfuel
      rw [hlines, List.append_assoc, skipBlanks_newLine, hv.skipBlanks]
      refine readItems_last (hv.reads level _ fuel (stops_newLine _ _) (by omega)) ?_
      exact skipBlanks_newLine outer _
    · have hlines : separate level (renderItems level (v :: w :: vs)) =
          newLine level ++ render level v ++ ',' :: separate level (renderItems level (w :: vs)) :=
        rfl
      rw [hlines, List.length_append, List.length_append, List.length_cons] at hfuel
      rw [hlines, List.append_assoc, List.append_assoc, skipBlanks_newLine, hv.skipBlanks,
        List.cons_append]
      rw [readItems_more (hv.reads level _ fuel (stops_comma _) (by omega)) rfl,
        ih (List.cons_ne_nil _ _) hvs fuel (by omega)]
      rfl

theorem readBack_list {vs : List Value} (hvs : ∀ v ∈ vs, ReadBack v) : ReadBack (.list vs) where
  starts := by
    intro level
    rcases vs with _ | ⟨v, vs⟩
    · exact ⟨'[', rfl, rfl, by decide⟩
    · exact ⟨'[', rfl, rfl, by decide⟩
  reads := by
    intro level rest fuel _ hfuel
    obtain ⟨fuel, rfl⟩ := Nat.exists_eq_succ_of_ne_zero (Nat.ne_zero_of_lt hfuel)
    rcases vs with _ | ⟨v, vs⟩
    · rfl
    · have hrender : render level (.list (v :: vs)) =
          '[' :: (separate (level + 1) (renderItems (level + 1) (v :: vs)) ++
            newLine level ++ [']']) := rfl
      rw [hrender, List.length_cons, List.length_append, List.length_append] at hfuel
      rw [hrender, List.cons_append, List.append_assoc, List.append_assoc, List.singleton_append]
      have hitems := readItems_renderItems (List.cons_ne_nil _ _) hvs (level + 1) level rest
        fuel (by omega)
      exact readValue_items (head_separate ((hvs v List.mem_cons_self).starts _) _ _ _) hitems

/-! ## Records -/

section Entries

variable {fuel : Nat} {s : String} {v : Value} {acc : List (Value × Value)}
  {behind after rest : List Char}

theorem readEntries_last (hread : readValue fuel (skipBlanks behind) = some (v, after))
    (hafter : skipBlanks after = '\x7d' :: rest) :
    readEntries (fuel + 1) acc (quote s ++ ':' :: behind) =
      some (Value.insert (.text s) v acc, rest) := by
  have hcolon : skipBlanks (':' :: behind) = ':' :: behind := rfl
  rw [quote_append, readEntries, readText_quote]
  simp only [Option.bind_eq_bind, Option.bind_some, hcolon, hread, hafter]
  rfl

theorem readEntries_more (hread : readValue fuel (skipBlanks behind) = some (v, after))
    (hafter : skipBlanks after = ',' :: rest) :
    readEntries (fuel + 1) acc (quote s ++ ':' :: behind) =
      readEntries fuel (Value.insert (.text s) v acc) (skipBlanks rest) := by
  have hcolon : skipBlanks (':' :: behind) = ':' :: behind := rfl
  rw [quote_append, readEntries, readText_quote]
  simp only [Option.bind_eq_bind, Option.bind_some, hcolon, hread, hafter]

end Entries

theorem skipBlanks_quote (s : String) (rest : List Char) :
    skipBlanks (quote s ++ rest) = quote s ++ rest :=
  skipBlanks_of_head ⟨'"', rfl, rfl⟩ rest

/-- A key that comes once is not among the keys before it. -/
theorem insert_of_nodup {s : String} {v : Value} {acc es : List (Value × Value)}
    (hnodup : ((acc ++ (.text s, v) :: es).map Prod.fst).Nodup) :
    Value.insert (.text s) v acc = acc ++ [(.text s, v)] := by
  rw [List.map_append, List.map_cons] at hnodup
  refine Value.insert_of_forall v fun e he => Bool.eq_false_iff.mpr fun hsame => ?_
  have hmem : Value.text s ∈ acc.map Prod.fst :=
    List.mem_map.mpr ⟨e, he, Value.text_same_iff.mp hsame⟩
  exact (List.nodup_append.mp hnodup).2.2 _ hmem _ List.mem_cons_self rfl

theorem readEntries_renderEntries {es : List (Value × Value)} (hne : es ≠ [])
    (hkeys : ∀ e ∈ es, ∃ s, e.1 = .text s) (hes : ∀ e ∈ es, ReadBack e.2)
    (acc : List (Value × Value)) (hnodup : ((acc ++ es).map Prod.fst).Nodup)
    (level outer : Nat) (rest : List Char) (fuel : Nat)
    (hfuel : (separate level (renderEntries level es)).length < fuel) :
    readEntries fuel acc (skipBlanks (separate level (renderEntries level es) ++
      (newLine outer ++ '\x7d' :: rest))) = some (acc ++ es, rest) := by
  induction es generalizing fuel acc with
  | nil => exact absurd rfl hne
  | cons e es ih =>
    obtain ⟨⟨s, hs⟩, hrestKeys⟩ := List.forall_mem_cons.mp hkeys
    obtain ⟨hvalue, hrestValues⟩ := List.forall_mem_cons.mp hes
    obtain ⟨key, v⟩ := e
    obtain rfl : key = .text s := hs
    have hv : ReadBack v := hvalue
    obtain ⟨fuel, rfl⟩ := Nat.exists_eq_succ_of_ne_zero (Nat.ne_zero_of_lt hfuel)
    -- The key comes last, so the entries that are read keep their order.
    have hinsert := insert_of_nodup hnodup
    rcases es with _ | ⟨e, es⟩
    · have hlines : separate level (renderEntries level [(.text s, v)]) =
          newLine level ++ (quote s ++ ':' :: ' ' :: render level v) := rfl
      simp only [hlines, List.length_append, List.length_cons] at hfuel
      rw [hlines, List.append_assoc, skipBlanks_newLine, List.append_assoc, skipBlanks_quote]
      have hread := hv.reads_entry level fuel
        (stops_newLine outer ('\x7d' :: rest)) (by omega)
      rw [← hinsert]
      exact readEntries_last hread (skipBlanks_newLine outer _)
    · have hlines : separate level (renderEntries level ((.text s, v) :: e :: es)) =
          newLine level ++ (quote s ++ ':' :: ' ' :: render level v) ++
            ',' :: separate level (renderEntries level (e :: es)) := rfl
      simp only [hlines, List.length_append, List.length_cons] at hfuel
      rw [hlines, List.append_assoc, List.append_assoc, skipBlanks_newLine, List.append_assoc,
        skipBlanks_quote]
      have hread := hv.reads_entry level fuel (stops_comma
        (separate level (renderEntries level (e :: es)) ++ (newLine outer ++ '\x7d' :: rest)))
        (by omega)
      refine (readEntries_more hread rfl).trans ?_
      rw [hinsert, ih (List.cons_ne_nil _ _) hrestKeys hrestValues]
      · rw [List.append_assoc, List.singleton_append]
      · rw [List.append_assoc, List.singleton_append]
        exact hnodup
      · omega

theorem readBack_record {es : List (Value × Value)} (hkeys : ∀ e ∈ es, ∃ s, e.1 = .text s)
    (hnodup : (es.map Prod.fst).Nodup) (hes : ∀ e ∈ es, ReadBack e.2) :
    ReadBack (.record es) where
  starts := by
    intro level
    rcases es with _ | ⟨e, es⟩
    · exact ⟨'\x7b', rfl, rfl, by decide⟩
    · exact ⟨'\x7b', rfl, rfl, by decide⟩
  reads := by
    intro level rest fuel _ hfuel
    obtain ⟨fuel, rfl⟩ := Nat.exists_eq_succ_of_ne_zero (Nat.ne_zero_of_lt hfuel)
    rcases es with _ | ⟨e, es⟩
    · rfl
    · have hrender : render level (.record (e :: es)) =
          '\x7b' :: (separate (level + 1) (renderEntries (level + 1) (e :: es)) ++
            newLine level ++ ['\x7d']) := rfl
      rw [hrender, List.length_cons, List.length_append, List.length_append] at hfuel
      rw [hrender, List.cons_append, List.append_assoc, List.append_assoc, List.singleton_append]
      have hentries := readEntries_renderEntries (List.cons_ne_nil _ _) hkeys hes [] hnodup
        (level + 1) level rest fuel (by omega)
      obtain ⟨s, hs⟩ := hkeys e List.mem_cons_self
      have hkey : (name? e.1).getD [] = quote s := by
        rw [hs]
        rfl
      refine readValue_entries (head_separate ?_ _ _ _) hentries
      rw [hkey]
      exact ⟨'"', rfl, rfl, by decide⟩

/-! ## The round trip -/

theorem Data.readBack {v : Value} (h : Data v) : ReadBack v := by
  induction h with
  | null => exact readBack_null
  | bool b => exact readBack_bool b
  | int n hn => exact readBack_int hn
  | float x hx => exact readBack_float hx
  | text s => exact readBack_text s
  | list vs _ ih => exact readBack_list ih
  | record es hkeys hnodup _ ih => exact readBack_record hkeys hnodup ih

/-- Data is written, and is read back from what is written. -/
theorem write_read {v : Value} (h : Data v) :
    ∃ s, write v = .ok s ∧ read s = .ok v := by
  refine ⟨String.ofList (render 0 v), by rw [write, if_pos h.expressible], ?_⟩
  have hblanks : skipBlanks (render 0 v) = render 0 v := by
    have hskip := h.readBack.skipBlanks 0 []
    rwa [List.append_nil] at hskip
  have hread := h.readBack.reads 0 [] ((render 0 v).length + 1) nofun (Nat.lt_succ_self _)
  rw [List.append_nil] at hread
  rw [read, String.toList_ofList, hblanks]
  simp [hread, skipBlanks]

end DataParallel.Json
