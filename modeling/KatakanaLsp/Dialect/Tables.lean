import KatakanaLsp.Dialect.Basic

/-!
# The spellings of the dialect

Three tables, in the order in which completions are offered. The order within a table is the order
of its completions too.
-/

namespace KatakanaLsp.Dialect

/-- Spellings of the keywords. -/
def keywords : Table := ⟨.keyword,
  [⟨"トゥルー", "True"⟩, ⟨"フォルス", "False"⟩, ⟨"ノン", "None"⟩, ⟨"イフ", "if"⟩,
   ⟨"エリフ", "elif"⟩, ⟨"エルス", "else"⟩, ⟨"フォー", "for"⟩, ⟨"ホワイル", "while"⟩,
   ⟨"ブレーク", "break"⟩, ⟨"コンティニュー", "continue"⟩, ⟨"デフ", "def"⟩, ⟨"クラス", "class"⟩,
   ⟨"リターン", "return"⟩, ⟨"イールド", "yield"⟩, ⟨"ラムダ", "lambda"⟩, ⟨"アンド", "and"⟩,
   ⟨"オア", "or"⟩, ⟨"ノット", "not"⟩, ⟨"イン", "in"⟩, ⟨"イズ", "is"⟩, ⟨"トライ", "try"⟩,
   ⟨"エクセプト", "except"⟩, ⟨"ファイナリー", "finally"⟩, ⟨"レイズ", "raise"⟩,
   ⟨"インポート", "import"⟩, ⟨"フロム", "from"⟩, ⟨"アズ", "as"⟩, ⟨"グローバル", "global"⟩,
   ⟨"ノンローカル", "nonlocal"⟩, ⟨"エイシンク", "async"⟩, ⟨"アウェイト", "await"⟩,
   ⟨"パス", "pass"⟩, ⟨"デル", "del"⟩, ⟨"ウィズ", "with"⟩, ⟨"アサート", "assert"⟩]⟩

/-- Spellings of the built-in functions. -/
def builtinFunctions : Table := ⟨.builtinFunction,
  [⟨"プリント", "print"⟩, ⟨"インプット", "input"⟩, ⟨"ヘルプ", "help"⟩, ⟨"レン", "len"⟩,
   ⟨"サム", "sum"⟩, ⟨"マックス", "max"⟩, ⟨"ミン", "min"⟩, ⟨"ソーテッド", "sorted"⟩,
   ⟨"リバースド", "reversed"⟩, ⟨"ディル", "dir"⟩, ⟨"オール", "all"⟩, ⟨"エニー", "any"⟩,
   ⟨"マップ", "map"⟩, ⟨"フィルター", "filter"⟩, ⟨"ジップ", "zip"⟩, ⟨"スライス", "slice"⟩,
   ⟨"イター", "iter"⟩, ⟨"ネクスト", "next"⟩, ⟨"エイター", "aiter"⟩, ⟨"エイネクスト", "anext"⟩,
   ⟨"レンジ", "range"⟩, ⟨"エービーエス", "abs"⟩, ⟨"パウ", "pow"⟩, ⟨"ラウンド", "round"⟩,
   ⟨"ディブモッド", "divmod"⟩, ⟨"イズインスタンス", "isinstance"⟩,
   ⟨"イズサブクラス", "issubclass"⟩, ⟨"ハズアトリブ", "hasattr"⟩, ⟨"ゲットアトリブ", "getattr"⟩,
   ⟨"セットアトリブ", "setattr"⟩, ⟨"デルアトリブ", "delattr"⟩, ⟨"アスキー", "ascii"⟩,
   ⟨"ビン", "bin"⟩, ⟨"レップ", "repr"⟩, ⟨"フォーマット", "format"⟩, ⟨"ヘックス", "hex"⟩,
   ⟨"オクト", "oct"⟩, ⟨"キャラ", "chr"⟩, ⟨"オーアールディー", "ord"⟩,
   ⟨"コーラブル", "callable"⟩, ⟨"コンパイル", "compile"⟩, ⟨"エバル", "eval"⟩,
   ⟨"エグゼック", "exec"⟩, ⟨"グローバルズ", "globals"⟩, ⟨"ハッシュ", "hash"⟩,
   ⟨"アイディー", "id"⟩, ⟨"ローカルズ", "locals"⟩, ⟨"オープン", "open"⟩, ⟨"バーズ", "vars"⟩,
   ⟨"ブレークポイント", "breakpoint"⟩, ⟨"コピーライト", "copyright"⟩, ⟨"クレジッツ", "credits"⟩,
   ⟨"エグジット", "exit"⟩, ⟨"ライセンス", "license"⟩, ⟨"クイット", "quit"⟩]⟩

/-- Spellings of the built-in types. -/
def builtinTypes : Table := ⟨.builtinType,
  [⟨"ブール", "bool"⟩, ⟨"イント", "int"⟩, ⟨"フロート", "float"⟩, ⟨"ストリング", "str"⟩,
   ⟨"リスト", "list"⟩, ⟨"タプル", "tuple"⟩, ⟨"ディクト", "dict"⟩, ⟨"セット", "set"⟩,
   ⟨"フローズンセット", "frozenset"⟩, ⟨"バイツ", "bytes"⟩, ⟨"バイトアレイ", "bytearray"⟩,
   ⟨"コンプレックス", "complex"⟩, ⟨"エニュメレート", "enumerate"⟩,
   ⟨"メモリビュー", "memoryview"⟩, ⟨"オブジェクト", "object"⟩, ⟨"タイプ", "type"⟩,
   ⟨"スーパー", "super"⟩, ⟨"プロパティ", "property"⟩, ⟨"クラスメソッド", "classmethod"⟩,
   ⟨"スタティックメソッド", "staticmethod"⟩]⟩

/-- The three tables in the order of their completions. -/
def tables : List Table := [keywords, builtinFunctions, builtinTypes]

/-- The number of entries in all tables. -/
def totalEntries : Nat := tables.foldl (fun n t => n + t.entries.length) 0

end KatakanaLsp.Dialect
