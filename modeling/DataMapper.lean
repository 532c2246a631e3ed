import DataMapper.Session
import DataMapper.SqlValue.Json
import DataMapper.Settings.Loader
import DataMapper.Settings.Lookup
import DataMapper.Proofs.RoundTrip
import DataMapper.Proofs.RegistryLaw
import DataMapper.Proofs.RecordMap
import DataMapper.Proofs.Repopulation
import DataMapper.Proofs.Binding
import DataMapper.Proofs.KeyParameter
import DataMapper.Proofs.ColumnNames
import DataMapper.Proofs.Confinement
import DataMapper.Proofs.Layering
import DataMapper.Proofs.Loading
import DataMapper.Proofs.Precedence
import DataMapper.Proofs.Completion
import DataMapper.Proofs.Reloading
import DataMapper.Proofs.Decoding
import DataMapper.Proofs.Normalization
import DataMapper.Proofs.Derivation
import DataMapper.Proofs.RowLookup
import DataMapper.Proofs.EffectiveQuery
import DataMapper.Proofs.Paging
import DataMapper.Proofs.Lookup
import DataMapper.Proofs.ValueJson
import DataMapper.Proofs.Assignments
import DataMapper.Proofs.Qualification
import DataMapper.Proofs.Increments
import DataMapper.Proofs.IntegerReaders
import DataMapper.Proofs.WordSeparators
import DataMapper.Proofs.Naming
