import HexMonitor.Net.SocketAddress
import HexMonitor.Proofs.Numerals

namespace HexMonitor.Net

open Text (NoDigit noDigit_cons isDigitIn)

namespace IPv4

theorem complete_octet : octet.Complete :=
  ⟨by decide, by decide, by simp [octet]⟩

theorem readOctet?_writeOctet (o : UInt8) {rest : List Char} (hr : NoDigit 10 rest) :
    readOctet? (writeOctet o ++ rest) = some (o, rest) := by
  have hd : octet.read? (writeOctet o ++ rest) = some (o.toNat, rest) :=
    complete_octet.read?_toDigits o.toNat_lt hr
  rw [readOctet?, hd, Option.map_some]
  show some (UInt8.ofNat o.toNat, rest) = _
  rw [UInt8.ofNat_toNat]

theorem read?_write (ip : IPv4) {rest : List Char} (hr : NoDigit 10 rest) :
    read? (ip.write ++ rest) = some (ip, rest) := by
  have hdot (text : List Char) : NoDigit 10 ('.' :: text) := noDigit_cons (by decide) text
  simp only [read?, write, List.append_assoc, List.cons_append, readOctet?_writeOctet _ (hdot _),
    readOctet?_writeOctet _ hr, Text.skip?_cons, Option.bind_eq_bind, Option.bind_some]
  rfl

theorem read?_of_octet_none {text : List Char} (h : octet.read? text = none) :
    read? text = none := by
  simp only [read?, readOctet?, h, Option.map_none, Option.bind_eq_bind, Option.bind_none]

theorem read?_of_noDigit {text : List Char} (h : NoDigit 10 text) : read? text = none :=
  read?_of_octet_none (Text.Numeral.read?_of_noDigit h)

/-- Without a dot behind the digits in front there is no address in dotted decimal. -/
theorem read?_eq_none {text : List Char}
    (h : (text.dropWhile (isDigitIn 10)).head? ≠ some '.') : read? text = none := by
  cases hd : octet.read? text with
  | none => exact read?_of_octet_none hd
  | some r =>
    have hrest : r.2 = text.dropWhile (isDigitIn 10) := Text.Numeral.rest_of_read? hd
    rw [← hrest] at h
    simp only [read?, readOctet?, hd, Option.map_some, Option.bind_eq_bind, Option.bind_some,
      Text.skip?_eq_none h, Option.bind_none]

end IPv4

namespace IPv6

theorem complete_group : group.Complete :=
  ⟨by decide, by decide, by simp [group]⟩

/-- `Closes rest`: the groups of an address end where `rest` begins, and none begins there. -/
structure Closes (rest : List Char) : Prop where
  noDigit : NoDigit 16 rest
  noDot : rest.head? ≠ some '.'
  noGroup : ∀ text, rest = ':' :: text → NoDigit 16 text

theorem closes_cons {c : Char} (hd : isDigitIn 16 c = false) (hdot : c ≠ '.') (hcolon : c ≠ ':')
    (text : List Char) : Closes (c :: text) := by
  refine ⟨noDigit_cons hd text, by simpa using hdot, ?_⟩
  intro _ h
  cases h
  exact absurd rfl hcolon

theorem closes_colons (text : List Char) : Closes (':' :: ':' :: text) := by
  refine ⟨noDigit_cons (by decide) _, by simp, ?_⟩
  intro _ h
  cases h
  exact noDigit_cons (by decide) text

/-- The digits of a group are no octet, unless a dot is behind them. -/
theorem read?_group_eq_none (n : Nat) {rest : List Char} (hd : NoDigit 16 rest)
    (hdot : rest.head? ≠ some '.') : IPv4.read? (Nat.toDigits 16 n ++ rest) = none := by
  apply IPv4.read?_eq_none
  rw [List.dropWhile_append]
  split
  · rwa [Text.dropWhile_of_noDigit (hd.of_le (by decide))]
  · rename_i hne
    -- What is left of the digits begins with one, of base sixteen.
    intro h
    cases hl : (Nat.toDigits 16 n).dropWhile (isDigitIn 10) with
    | nil => simp [hl] at hne
    | cons c cs =>
      have hm : c ∈ Nat.toDigits 16 n :=
        (List.dropWhile_sublist _).subset (hl ▸ List.mem_cons_self)
      have hc := Text.isDigitIn_of_mem_toDigits (by decide) (by decide) n c hm
      rw [hl] at h
      obtain rfl : c = '.' := by simpa using h
      exact absurd hc (by decide)

/-- Nothing is read where no group begins. -/
theorem readGroups_eq_nil {limit : Nat} {first : Bool} {text : List Char}
    (h : ∀ start, skipSeparator? first text = some start → NoDigit 16 start) :
    readGroups limit first text = ⟨[], false, text⟩ := by
  cases limit with
  | zero => rfl
  | succ limit =>
    rw [readGroups]
    cases hs : skipSeparator? first text with
    | none => rfl
    | some start =>
      have hd := h start hs
      have hg : group.read? start = none := Text.Numeral.read?_of_noDigit hd
      simp only [IPv4.read?_of_noDigit (hd.of_le (by decide)), ite_self, hg]

/-- A group is read, and the others behind it. -/
theorem readGroups_group {limit : Nat} {first : Bool} {text rest : List Char} {g : UInt16}
    (hs : skipSeparator? first text = some (Nat.toDigits 16 g.toNat ++ rest))
    (hd : NoDigit 16 rest) (hdot : rest.head? ≠ some '.') :
    readGroups (limit + 1) first text =
      { readGroups limit false rest with groups := g :: (readGroups limit false rest).groups } := by
  have hg : group.read? (Nat.toDigits 16 g.toNat ++ rest) = some (g.toNat, rest) :=
    complete_group.read?_toDigits g.toNat_lt hd
  rw [readGroups]
  simp only [hs, read?_group_eq_none g.toNat hd hdot, ite_self, hg, UInt16.ofNat_toNat]

def writeBehind (groups : List UInt16) : List Char :=
  groups.flatMap fun g => ':' :: Nat.toDigits 16 g.toNat

theorem writeGroups_cons (g : UInt16) (groups : List UInt16) :
    writeGroups (g :: groups) = Nat.toDigits 16 g.toNat ++ writeBehind groups := by
  induction groups generalizing g with
  | nil => simp [writeGroups, writeBehind]
  | cons g' groups ih =>
    rw [writeGroups, ih g']
    · simp [writeBehind]
    · simp

theorem closes_writeBehind (groups : List UInt16) {rest : List Char} (hc : Closes rest) :
    NoDigit 16 (writeBehind groups ++ rest) ∧
      (writeBehind groups ++ rest).head? ≠ some '.' := by
  cases groups with
  | nil => exact ⟨hc.noDigit, hc.noDot⟩
  | cons g groups => exact ⟨noDigit_cons (by decide) _, by simp [writeBehind]⟩

theorem readGroups_writeBehind {groups : List UInt16} {limit : Nat} {rest : List Char}
    (hl : groups.length ≤ limit) (hc : Closes rest) :
    readGroups limit false (writeBehind groups ++ rest) = ⟨groups, false, rest⟩ := by
  induction groups generalizing limit with
  | nil =>
    apply readGroups_eq_nil
    intro start hs
    exact hc.noGroup start (Text.eq_cons_of_skip? hs)
  | cons g groups ih =>
    obtain ⟨limit, rfl⟩ : ∃ k, limit = k + 1 := ⟨limit - 1, by simp at hl; omega⟩
    obtain ⟨hd, hdot⟩ := closes_writeBehind groups hc
    have hs : skipSeparator? false (writeBehind (g :: groups) ++ rest) =
        some (Nat.toDigits 16 g.toNat ++ (writeBehind groups ++ rest)) := by
      simp [skipSeparator?, writeBehind]
    rw [readGroups_group hs hd hdot, ih (Nat.le_of_succ_le_succ hl)]

theorem readGroups_writeGroups {groups : List UInt16} {limit : Nat} {rest : List Char}
    (hl : groups.length ≤ limit) (hc : Closes rest) :
    readGroups limit true (writeGroups groups ++ rest) = ⟨groups, false, rest⟩ := by
  cases groups with
  | nil =>
    apply readGroups_eq_nil
    intro start hs
    cases hs
    exact hc.noDigit
  | cons g groups =>
    obtain ⟨limit, rfl⟩ : ∃ k, limit = k + 1 := ⟨limit - 1, by simp at hl; omega⟩
    obtain ⟨hd, hdot⟩ := closes_writeBehind groups hc
    have hs : skipSeparator? true (writeGroups (g :: groups) ++ rest) =
        some (Nat.toDigits 16 g.toNat ++ (writeBehind groups ++ rest)) := by
      rw [writeGroups_cons, List.append_assoc]
      rfl
    rw [readGroups_group hs hd hdot, readGroups_writeBehind (Nat.le_of_succ_le_succ hl) hc]

theorem readGroups_ofIPv4 {limit : Nat} (ip : IPv4) {rest : List Char} (hr : NoDigit 10 rest) :
    readGroups (limit + 2) false (':' :: (ip.write ++ rest)) = ⟨ofIPv4 ip, true, rest⟩ := by
  rw [readGroups]
  have hs : skipSeparator? false (':' :: (ip.write ++ rest)) = some (ip.write ++ rest) := by
    simp [skipSeparator?]
  simp only [hs, ip.read?_write hr, Nat.succ_ne_zero, if_false]

/-- An address with all of its groups. -/
theorem read?_writeGroups {groups : List UInt16} (hl : groups.length = 8) {rest : List Char}
    (hc : Closes rest) :
    read? (writeGroups groups ++ rest) = some (ofGroups groups, rest) := by
  rw [read?, readGroups_writeGroups (Nat.le_of_eq hl) hc]
  exact if_pos hl

/-- An address with a double colon, however many groups it stands for. -/
theorem read?_around {front back : List UInt16} (hl : front.length + back.length ≤ 7)
    {rest : List Char} (hc : Closes rest) :
    read? (writeGroups front ++ ':' :: ':' :: (writeGroups back ++ rest)) =
      some (ofGroups (front ++ List.replicate (8 - front.length - back.length) 0 ++ back),
        rest) := by
  rw [read?, readGroups_writeGroups (by omega) (closes_colons _)]
  have h₈ : front.length ≠ 8 := by omega
  simp only [h₈, if_false, Bool.false_eq_true, Text.skip?_cons, Option.bind_eq_bind,
    Option.bind_some, readGroups_writeGroups (by omega : back.length ≤ 7 - front.length) hc]
  rfl

/-- An address that stands for another one, which is written in dotted decimal. -/
theorem read?_mapped (ip : IPv4) {rest : List Char} (hr : NoDigit 10 rest) :
    read? ([':', ':', 'f', 'f', 'f', 'f', ':'] ++ ip.write ++ rest) =
      some (ofGroups ([0, 0, 0, 0, 0, 0xffff] ++ ofIPv4 ip), rest) := by
  have hfront (text : List Char) :
      readGroups 8 true (':' :: ':' :: text) = ⟨[], false, ':' :: ':' :: text⟩ :=
    @readGroups_writeGroups [] 8 _ (Nat.zero_le 8) (closes_colons text)
  have hs : skipSeparator? true ('f' :: 'f' :: 'f' :: 'f' :: ':' :: (ip.write ++ rest)) =
      some (Nat.toDigits 16 (0xffff : UInt16).toNat ++ ':' :: (ip.write ++ rest)) := rfl
  have hback : readGroups 7 true ('f' :: 'f' :: 'f' :: 'f' :: ':' :: (ip.write ++ rest)) =
      ⟨0xffff :: ofIPv4 ip, true, rest⟩ := by
    rw [readGroups_group hs (noDigit_cons (by decide) _) (by simp), readGroups_ofIPv4 ip hr]
  have hlen : (ofIPv4 ip).length = 2 := rfl
  simp only [read?, List.cons_append, List.nil_append, hfront, List.length_nil, Nat.sub_zero, hback,
    Text.skip?_cons, Option.bind_eq_bind, Option.bind_some, Bool.false_eq_true,
    Nat.reduceEqDiff, if_false, List.length_cons, hlen]
  rfl

theorem ofGroups_toList (ip : IPv6) : ofGroups ip.groups.toList = ip := by
  have hg : (Vector.ofFn fun i : Fin 8 => ip.groups.toList.getD i 0) = ip.groups :=
    Vector.ext fun i _ => by simp
  rw [ofGroups, hg]

theorem halves (g : UInt16) : (g >>> 8).toUInt8.toUInt16 <<< 8 ||| g.toUInt8.toUInt16 = g := by
  have hg := g.toNat_lt
  have hlow : g.toNat % 256 < 2 ^ 8 := Nat.mod_lt _ (by decide)
  have hor := Nat.shiftLeft_add_eq_or_of_lt hlow (g.toNat / 256)
  apply UInt16.toNat_inj.1
  simp only [UInt16.toNat_or, UInt16.toNat_shiftLeft, UInt8.toNat_toUInt16, UInt16.toNat_toUInt8,
    UInt16.toNat_shiftRight, UInt16.reduceToNat, Nat.reduceMod, Nat.shiftRight_eq_div_pow,
    Nat.shiftLeft_eq, Nat.reducePow] at hor ⊢
  rw [Nat.mod_eq_of_lt (by omega : g.toNat / 256 < 256),
    Nat.mod_eq_of_lt (by omega : g.toNat / 256 * 256 < 65536), ← hor]
  omega

theorem groups_of_mapped? {ip : IPv6} {v4 : IPv4} (h : ip.mapped? = some v4) :
    ip.groups.toList = [0, 0, 0, 0, 0, 0xffff] ++ ofIPv4 v4 := by
  unfold mapped? at h
  split at h
  · rename_i g g' hg
    cases h
    rw [hg, ofIPv4, halves, halves]
    rfl
  · cases h

/-- A run of zero groups is told by its length. -/
theorem replicate_zeroRun_append (groups : List UInt16) :
    List.replicate (zeroRun groups) 0 ++ groups.drop (zeroRun groups) = groups := by
  induction groups with
  | nil => rfl
  | cons g groups ih =>
    by_cases hg : g = 0
    · have hz : zeroRun (g :: groups) = zeroRun groups + 1 := by simp [zeroRun, hg]
      rw [hz, List.replicate_succ, List.drop_succ_cons, List.cons_append, ih, hg]
    · have hz : zeroRun (g :: groups) = 0 := by simp [zeroRun, hg]
      rw [hz]
      rfl

/-- The groups around a run of zero groups. -/
theorem read?_shortened {groups : List UInt16} (hl : groups.length = 8) {start : Nat}
    (hz : 1 < zeroRun (groups.drop start)) {rest : List Char} (hc : Closes rest) :
    read? (writeGroups (groups.take start) ++ ':' :: ':' ::
      (writeGroups (groups.drop (start + zeroRun (groups.drop start))) ++ rest)) =
        some (ofGroups groups, rest) := by
  have hrun := replicate_zeroRun_append (groups.drop start)
  have hlen := congrArg List.length hrun
  simp only [List.length_append, List.length_replicate, List.length_drop, hl] at hlen
  have hcount : 8 - (groups.take start).length -
      (groups.drop (start + zeroRun (groups.drop start))).length = zeroRun (groups.drop start) := by
    simp only [List.length_take, List.length_drop, hl]
    omega
  rw [read?_around _ hc, hcount, List.append_assoc, ← List.drop_drop, hrun, List.take_append_drop]
  simp only [List.length_take, List.length_drop, hl]
  omega

theorem read?_write (ip : IPv6) {rest : List Char} (hc : Closes rest) :
    read? (ip.write ++ rest) = some (ip, rest) := by
  have hl : ip.groups.toList.length = 8 := by simp
  unfold write
  split
  · rename_i v4 hm
    rw [read?_mapped v4 (hc.noDigit.of_le (by decide)), ← groups_of_mapped? hm, ofGroups_toList]
  · dsimp only
    split
    · rename_i hz
      have hr := read?_shortened hl hz hc
      rw [ofGroups_toList] at hr
      simpa only [List.append_assoc, List.cons_append, List.nil_append] using hr
    · rw [read?_writeGroups hl hc, ofGroups_toList]

end IPv6

namespace SocketAddress

theorem complete_portNumber : portNumber.Complete :=
  ⟨by decide, by decide, by simp [portNumber]⟩

theorem complete_scopeNumber : scopeNumber.Complete :=
  ⟨by decide, by decide, by simp [scopeNumber]⟩

theorem readPort?_toDigits (port : UInt16) :
    readPort? (':' :: Nat.toDigits 10 port.toNat) = some port := by
  have hd : portNumber.readAll? (Nat.toDigits 10 port.toNat) = some port.toNat :=
    complete_portNumber.readAll?_toDigits port.toNat_lt
  simp only [readPort?, Text.skip?_cons, Option.bind_eq_bind, Option.bind_some, hd]
  exact congrArg some UInt16.ofNat_toNat

/-- The scope in front of a bracket, which is not written if it is zero. -/
theorem readScope_write (scope : UInt32) (text : List Char) :
    readScope ((if scope = 0 then [] else '%' :: Nat.toDigits 10 scope.toNat) ++ ']' :: text) =
      (scope, ']' :: text) := by
  split
  · rename_i hs
    rw [hs, List.nil_append, readScope, Text.skip?_eq_none (by simp)]
  · have hd : scopeNumber.read? (Nat.toDigits 10 scope.toNat ++ ']' :: text) =
        some (scope.toNat, ']' :: text) :=
      complete_scopeNumber.read?_toDigits scope.toNat_lt (noDigit_cons (by decide) text)
    simp only [List.cons_append, readScope, Text.skip?_cons, hd, UInt32.ofNat_toNat]

theorem closes_scope (scope : UInt32) (text : List Char) :
    IPv6.Closes
      ((if scope = 0 then [] else '%' :: Nat.toDigits 10 scope.toNat) ++ ']' :: text) := by
  split
  · exact IPv6.closes_cons (by decide) (by decide) (by decide) text
  · exact IPv6.closes_cons (by decide) (by decide) (by decide) _

theorem read?_write (address : SocketAddress) : read? address.write = some address := by
  cases address with
  | v4 ip port =>
    have hip := ip.read?_write (noDigit_cons (by decide : isDigitIn 10 ':' = false)
      (Nat.toDigits 10 port.toNat))
    simp only [write, read?, hip, readPort?_toDigits]
    rfl
  | v6 ip scope port =>
    have h4 (text : List Char) : IPv4.read? ('[' :: text) = none :=
      IPv4.read?_of_noDigit (noDigit_cons (by decide) text)
    have hip := ip.read?_write (closes_scope scope (':' :: Nat.toDigits 10 port.toNat))
    simp only [write, List.append_assoc, List.cons_append, List.nil_append, read?, h4,
      Text.skip?_cons, Option.bind_eq_bind, Option.bind_some, hip, readScope_write,
      readPort?_toDigits]
    rfl

theorem ofText?_toText (address : SocketAddress) : ofText? address.toText = some address := by
  rw [ofText?, toText, String.toList_ofList, read?_write]

example : toText (.v6 ⟨#v[0x2001, 0xdb8, 0, 0, 1, 0, 0, 1]⟩ 0 80) = "[2001:db8::1:0:0:1]:80" := by
  decide +kernel

example : toText (.v6 ⟨#v[0, 0, 0, 0, 0, 0xffff, 0xc000, 0x280]⟩ 3 80) =
    "[::ffff:192.0.2.128%3]:80" := by
  decide +kernel

end SocketAddress

end HexMonitor.Net
