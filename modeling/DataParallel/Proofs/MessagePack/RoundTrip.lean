import DataParallel.MessagePack.Reader

/-!
# Packed messages read back

A value is read back from the bytes that are written for it, whatever stands behind them.  The
first bytes of a value switch at several lengths and magnitudes, so they are read back on their
own; lists and records follow by induction on their items and entries.
-/

namespace DataParallel

namespace MessagePack

/-! ## The first bytes -/

theorem split_append {n : Nat} {bs : List UInt8} (rest : List UInt8) (h : bs.length = n) :
    split n (bs ++ rest) = .ok (bs, rest) := by
  rw [split, if_pos (by simp [h]), List.take_left' h, List.drop_left' h]

theorem number_bigEndian {count n : Nat} (rest : List UInt8) (h : n < 256 ^ count) :
    number count (bigEndian count n ++ rest) = .ok (n, rest) := by
  simp only [number, split_append rest (length_bigEndian count n), ok_bind, ofBigEndian_bigEndian,
    Nat.mod_eq_of_lt h]
  rfl

theorem length_pos_of_head {bs : List UInt8} {h : Head} {rest : List UInt8}
    (hhead : head (bs ++ []) = .ok (h, rest)) : 0 < bs.length := by
  rcases bs with _ | ⟨b, bs⟩
  · cases hhead
  · exact Nat.succ_pos _

theorem shortest_of_lt {base room n : Nat} {forms : List (UInt8 × Nat)} {beyond : Fault}
    {f : UInt8 × Nat} (hf : f ∈ forms) (h : n < 256 ^ f.2) :
    ∃ bs, shortest base room forms beyond n = .ok bs := by
  rw [shortest]
  split
  · exact ⟨_, rfl⟩
  · rcases hfind : forms.find? fun form => n < 256 ^ form.2 with _ | ⟨tag, count⟩
    · exact absurd h (by simpa using List.find?_eq_none.1 hfind f hf)
    · exact ⟨tagged tag count n, by rw [hfind]⟩

/-- Whichever form is chosen, a reader `k` of what the number announces goes on behind it. -/
theorem head_shortest {base room n : Nat} {forms : List (UInt8 × Nat)} {beyond : Fault}
    {k : Nat → List UInt8 → Except Fault (Head × List UInt8)} {bs : List UInt8}
    (hshort : ∀ m < room, ∀ rest, head (UInt8.ofNat (base + m) :: rest) = k m rest)
    (hforms : ∀ form ∈ forms, ∀ m rest, head (tagged form.1 form.2 m ++ rest) =
      number form.2 (bigEndian form.2 m ++ rest) >>= fun p => k p.1 p.2)
    (h : shortest base room forms beyond n = .ok bs) (rest : List UInt8) :
    head (bs ++ rest) = k n rest := by
  rw [shortest] at h
  split at h
  · next hn =>
    cases h
    exact hshort n hn rest
  · rcases hfind : forms.find? fun form => n < 256 ^ form.2 with _ | ⟨tag, count⟩
    · rw [hfind] at h
      cases h
    · rw [hfind] at h
      cases h
      have hform := hforms _ (List.mem_of_find?_eq_some hfind) n rest
      have hn : n < 256 ^ count := by simpa using List.find?_some hfind
      rw [hform, number_bigEndian rest hn, ok_bind]

theorem head_natHead {n : Nat} {bs : List UInt8} (h : natHead n = .ok bs) (rest : List UInt8) :
    head (bs ++ rest) = .ok (.plain (.int n), rest) := by
  let found (m : Nat) (bs : List UInt8) : Except Fault (Head × List UInt8) :=
    .ok (.plain (.int m), bs)
  refine head_shortest (k := found) (fun m hm rest => ?_) ?_ h rest
  · simp [head, UInt8.toNat_ofNat_of_lt' (Nat.lt_trans hm (by decide)), hm, found]
  · simp only [List.forall_mem_cons]
    exact ⟨fun _ _ => rfl, fun _ _ => rfl, fun _ _ => rfl, fun _ _ => rfl, nofun⟩

theorem head_textHead {n : Nat} {bs : List UInt8} (h : textHead n = .ok bs) (rest : List UInt8) :
    head (bs ++ rest) = text n rest := by
  refine head_shortest (k := text) (fun m hm rest => ?_) ?_ h rest
  · simp only [head, UInt8.toNat_ofNat_of_lt' (show 0xA0 + m < 256 by omega)]
    rw [if_neg (by omega), if_neg (by omega), if_neg (by omega), if_pos (by omega),
      Nat.add_sub_cancel_left]
  · simp only [List.forall_mem_cons]
    exact ⟨fun _ _ => rfl, fun _ _ => rfl, fun _ _ => rfl, nofun⟩

theorem head_listHead {n : Nat} {bs : List UInt8} (h : listHead n = .ok bs) (rest : List UInt8) :
    head (bs ++ rest) = .ok (.items n, rest) := by
  let found (m : Nat) (bs : List UInt8) : Except Fault (Head × List UInt8) := .ok (.items m, bs)
  refine head_shortest (k := found) (fun m hm rest => ?_) ?_ h rest
  · simp only [head, UInt8.toNat_ofNat_of_lt' (show 0x90 + m < 256 by omega)]
    rw [if_neg (by omega), if_neg (by omega), if_pos (by omega), Nat.add_sub_cancel_left]
  · simp only [List.forall_mem_cons]
    exact ⟨fun _ _ => rfl, fun _ _ => rfl, nofun⟩

theorem head_recordHead {n : Nat} {bs : List UInt8} (h : recordHead n = .ok bs)
    (rest : List UInt8) : head (bs ++ rest) = .ok (.entries n, rest) := by
  let found (m : Nat) (bs : List UInt8) : Except Fault (Head × List UInt8) := .ok (.entries m, bs)
  refine head_shortest (k := found) (fun m hm rest => ?_) ?_ h rest
  · simp only [head, UInt8.toNat_ofNat_of_lt' (show 0x80 + m < 256 by omega)]
    rw [if_neg (by omega), if_pos (by omega), Nat.add_sub_cancel_left]
  · simp only [List.forall_mem_cons]
    exact ⟨fun _ _ => rfl, fun _ _ => rfl, nofun⟩

/-! ## Whole values -/

/-- The bytes of a value: they are written for it, and a reader of values nested to a depth reads
it back from them and leaves what stands behind. -/
structure Packs (depth : Nat) (v : Value) (bs : List UInt8) : Prop where
  written : write v = .ok bs
  nonempty : 0 < bs.length
  read : ∀ size rest, bs.length ≤ size → readValue size depth (bs ++ rest) = .ok (v, rest)

theorem readValue_plain {v : Value} {bs rest : List UInt8} (h : head bs = .ok (.plain v, rest))
    (size depth : Nat) : readValue size depth bs = .ok (v, rest) := by
  cases depth <;> rw [readValue, h] <;> rfl

theorem packs_plain {v : Value} {bs : List UInt8} (hwritten : write v = .ok bs)
    (hhead : ∀ rest, head (bs ++ rest) = .ok (.plain v, rest)) (depth : Nat) :
    Packs depth v bs where
  written := hwritten
  nonempty := length_pos_of_head (hhead [])
  read size rest _ := readValue_plain (hhead rest) size depth

theorem packs_null (depth : Nat) : Packs depth .null [0xC0] :=
  packs_plain rfl (fun _ => rfl) depth

theorem packs_nat {n : Nat} (h : n < 2 ^ 64) (depth : Nat) : ∃ bs, Packs depth (.int n) bs := by
  obtain ⟨bs, hbs⟩ : ∃ bs, natHead n = .ok bs := shortest_of_lt (f := (0xCF, 8)) (by simp) h
  have hwritten : write (.int n) = .ok bs := by
    rw [write, writeInt, if_pos (Int.natCast_nonneg n), Int.toNat_natCast, hbs]
  exact ⟨bs, packs_plain hwritten (head_natHead hbs) depth⟩

theorem fromUTF8?_toUTF8 (s : String) : String.fromUTF8? s.toUTF8 = some s := by
  have hvalid : s.toUTF8.IsValidUTF8 := s.isValidUTF8
  rw [String.fromUTF8?, dif_pos hvalid]
  rfl

theorem packs_text {s : String} (h : s.utf8ByteSize < 2 ^ 32) (depth : Nat) :
    ∃ bs, Packs depth (.text s) bs := by
  have hlength : s.toUTF8.data.toList.length < 2 ^ 32 := h
  obtain ⟨first, hfirst⟩ : ∃ first, textHead s.toUTF8.data.toList.length = .ok first :=
    shortest_of_lt (f := (0xDB, 4)) (by simp) hlength
  have hwritten : write (.text s) = .ok (first ++ s.toUTF8.data.toList) := by
    rw [write, writeText, hfirst]
    rfl
  refine ⟨_, packs_plain hwritten (fun rest => ?_) depth⟩
  rw [List.append_assoc, head_textHead hfirst]
  simp only [text, split_append rest rfl, ok_bind, Array.toArray_toList]
  rw [show (⟨s.toUTF8.data⟩ : ByteArray) = s.toUTF8 from rfl, fromUTF8?_toUTF8]
  rfl

theorem packs_items {depth : Nat} {vs : List Value} (h : ∀ v ∈ vs, ∃ bs, Packs depth v bs) :
    ∃ bs, writeItems vs = .ok bs ∧ vs.length ≤ bs.length ∧ ∀ size rest, bs.length ≤ size →
      readItems (readValue size depth) vs.length (bs ++ rest) = .ok (vs, rest) := by
  induction vs with
  | nil => exact ⟨[], by rw [writeItems], Nat.le_refl 0, fun _ _ _ => rfl⟩
  | cons v vs ih =>
    obtain ⟨first, hfirst⟩ := h v List.mem_cons_self
    obtain ⟨others, hwritten, hlength, hread⟩ := ih fun w hw => h w (List.mem_cons_of_mem _ hw)
    refine ⟨first ++ others, ?_, ?_, fun size rest hsize => ?_⟩
    · rw [writeItems, hfirst.written, hwritten]
      rfl
    · have hpos := hfirst.nonempty
      simp only [List.length_cons, List.length_append]
      omega
    · rw [List.length_append] at hsize
      have hone := hfirst.read size (others ++ rest) (by omega)
      have hmany := hread size rest (by omega)
      simp only [List.append_assoc, List.length_cons, readItems, hone, hmany, ok_bind]
      rfl

theorem packs_list {depth : Nat} {vs : List Value} (hcount : vs.length < 2 ^ 32)
    (h : ∀ v ∈ vs, ∃ bs, Packs depth v bs) : ∃ bs, Packs (depth + 1) (.list vs) bs := by
  obtain ⟨items, hwritten, hlength, hread⟩ := packs_items h
  obtain ⟨first, hfirst⟩ : ∃ first, listHead vs.length = .ok first :=
    shortest_of_lt (f := (0xDD, 4)) (by simp) hcount
  have hhead := head_listHead hfirst
  have hpos := length_pos_of_head (hhead [])
  refine ⟨first ++ items, ⟨?_, ?_, fun size rest hsize => ?_⟩⟩
  · rw [write, hfirst, hwritten]
    rfl
  · rw [List.length_append]
    omega
  · rw [List.length_append] at hsize
    have hlimit : checkCount size vs.length = .ok () := if_neg (by omega)
    have hitems := hread size rest (by omega)
    simp only [List.append_assoc, readValue, hhead, ok_bind, hlimit, hitems]
    rfl

theorem packs_entries {depth : Nat} {es : List (Value × Value)}
    (hkeys : ∀ e ∈ es, isMessageKey e.1 = true)
    (hpacks : ∀ e ∈ es, (∃ bs, Packs depth e.1 bs) ∧ ∃ bs, Packs depth e.2 bs) :
    ∃ bs, writeEntries es = .ok bs ∧ 2 * es.length ≤ bs.length ∧
      ∀ size rest known, bs.length ≤ size →
        (known ++ es).Pairwise (fun old new => new.1.same old.1 = false) →
        readEntries (readValue size depth) es.length known (bs ++ rest) =
          .ok (known ++ es, rest) := by
  induction es with
  | nil =>
    refine ⟨[], by rw [writeEntries], Nat.le_refl 0, fun _ _ known _ _ => ?_⟩
    rw [List.append_nil]
    rfl
  | cons e es ih =>
    rcases e with ⟨k, v⟩
    obtain ⟨⟨key, hkey⟩, value, hvalue⟩ := hpacks (k, v) List.mem_cons_self
    obtain ⟨others, hwritten, hlength, hread⟩ := ih
      (fun e he => hkeys e (List.mem_cons_of_mem _ he))
      (fun e he => hpacks e (List.mem_cons_of_mem _ he))
    refine ⟨key ++ value ++ others, ?_, ?_, fun size rest known hsize hdistinct => ?_⟩
    · rw [writeEntries, hkey.written, hvalue.written, hwritten]
      rfl
    · have hkeyPos := hkey.nonempty
      have hvaluePos := hvalue.nonempty
      simp only [List.length_cons, List.length_append]
      omega
    · simp only [List.length_append] at hsize
      have hnew : ∀ e ∈ known, k.same e.1 = false := fun e he =>
        (List.pairwise_append.1 hdistinct).2.2 e he (k, v) List.mem_cons_self
      have hmove : known ++ (k, v) :: es = known ++ [(k, v)] ++ es := by
        rw [List.append_assoc]
        rfl
      rw [hmove] at hdistinct ⊢
      have hk := hkey.read size (value ++ (others ++ rest)) (by omega)
      have hv := hvalue.read size (others ++ rest) (by omega)
      simp only [List.append_assoc, List.length_cons, readEntries, hk, hv, ok_bind,
        if_pos (hkeys (k, v) List.mem_cons_self), Value.insert_of_forall v hnew]
      simpa only [List.append_assoc] using hread size rest _ (by omega) hdistinct

theorem packs_record {depth : Nat} {es : List (Value × Value)} (hcount : es.length < 2 ^ 32)
    (hkeys : ∀ e ∈ es, isMessageKey e.1 = true)
    (hdistinct : es.Pairwise fun old new => new.1.same old.1 = false)
    (hpacks : ∀ e ∈ es, (∃ bs, Packs depth e.1 bs) ∧ ∃ bs, Packs depth e.2 bs) :
    ∃ bs, Packs (depth + 1) (.record es) bs := by
  obtain ⟨entries, hwritten, hlength, hread⟩ := packs_entries hkeys hpacks
  obtain ⟨first, hfirst⟩ : ∃ first, recordHead es.length = .ok first :=
    shortest_of_lt (f := (0xDF, 4)) (by simp) hcount
  have hhead := head_recordHead hfirst
  have hpos := length_pos_of_head (hhead [])
  refine ⟨first ++ entries, ⟨?_, ?_, fun size rest hsize => ?_⟩⟩
  · rw [write, hfirst, hwritten]
    rfl
  · rw [List.length_append]
    omega
  · rw [List.length_append] at hsize
    have hlimit : checkCount (size / 2) es.length = .ok () := if_neg (by omega)
    have hentries := hread size rest [] (by omega) hdistinct
    simp only [List.append_assoc, readValue, hhead, ok_bind, hlimit, hentries]
    rfl

theorem Packs.read_eq {v : Value} {bs : List UInt8} (h : Packs maxDepth v bs) :
    MessagePack.read bs = .ok v := by
  have hvalue := h.read bs.length [] (Nat.le_refl _)
  rw [List.append_nil] at hvalue
  rw [MessagePack.read, hvalue]
  rfl

end MessagePack

end DataParallel
