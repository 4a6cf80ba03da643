import TablelandProofs.Tableland
import TablelandProofs.TableName
import TablelandProofs.Parsing.Ast
import TablelandProofs.Parsing.Validator
import TablelandProofs.Parsing.Create
import TablelandProofs.Parsing.StructureHash
import TablelandProofs.Parsing.WriteQuery
import TablelandProofs.Parsing.RunSql
import TablelandProofs.Txn.Db
import TablelandProofs.Txn.Processor
import TablelandProofs.Txn.SystemAcl
import TablelandProofs.Txn.BatchToken
import TablelandProofs.Txn.WritePath
import TablelandProofs.Txn.Registry
import TablelandProofs.Txn.AclModel
