import Ormdb.PyText
import Ormdb.PyNum
import Ormdb.Regex
import Ormdb.PyVal
import Ormdb.PyFormat
import Ormdb.Literal
import Ormdb.Select
import Ormdb.Mutation
import Ormdb.Cursor
import Ormdb.Client
import Ormdb.Effects
import Ormdb.CursorRuns
import Ormdb.RegexLaws
import Ormdb.Statements
import Ormdb.MutationLaws
import Ormdb.Words
import Ormdb.SelectGrammar
import Ormdb.SelectLaws
import Ormdb.Binding
import Ormdb.ValueFormat
import Ormdb.LiteralLaws
import Ormdb.ReplyLaws
import Ormdb.Reflection
import Ormdb.ReflectionLaws
import Ormdb.Operations
import Ormdb.Connection
import Ormdb.Reads
import Ormdb.Settings
